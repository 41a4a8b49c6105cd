import Sift.Proofs.Version.Bounds

/-! Versions are read back from what they are written as, but for one number.

A version is written as its three numbers, a prerelease if that has an identifier, and a build if
that is not empty. What the text of a version may have besides is gone: a `v`, wildcards, missing
and further segments, separators without numbers, dots without identifiers. What is left is read
again as it stands (`readVersion_written`), so only the prerelease can change, and a prerelease
without identifiers is as good as none (`Semantic.parse_written`, `Calendar.parse_written`).

The exception is the one that constraints have. A prerelease that is one number with a leading zero
is refused at the end of a text only. A plus with no build behind it lets a semantic version end in
such a number, and is not written. Calendar versions have no build, so none of them is an exception. -/
namespace Sift.Version

open Text

/-! ### The text of the parts -/

/-- What the parts of a version are written as. -/
def Parts.display (g : Grammar) (parts : Parts) : String :=
  writeCore g parts.core ++ writePrerelease parts.prerelease ++ writeBuild parts.build

section

variable {g : Grammar} {parts : Parts}

theorem Parts.IsWritable.not_blank (h : parts.IsWritable g) :
    ∀ c ∈ (parts.display g).toList, isBlank c = false := by
  intro c hc
  simp only [Parts.display, String.toList_append, List.mem_append] at hc
  obtain (hc | hc) | hc := hc
  · exact isBlank_of_isIdentifierChar (mem_writeCore h.core hc)
  · unfold writePrerelease at hc
    split at hc
    · cases hc
    · rw [String.toList_append, List.mem_append] at hc
      obtain hc | hc := hc
      · rw [List.mem_singleton.1 hc]
        decide
      · exact isBlank_of_isIdentifierChar (h.prerelease c hc)
  · by_cases hbuild : parts.build = ""
    · rw [hbuild] at hc
      cases hc
    · rw [toList_writeBuild hbuild, List.mem_cons] at hc
      obtain rfl | hc := hc
      · decide
      · exact isBlank_of_isIdentifierChar (h.build c hc)

/-- The text of the parts is read as these parts, with the prerelease that was written. -/
theorem readVersion_written (h : parts.IsWritable g) :
    readVersion g (parts.display g) =
      if parts.prerelease.isPadded = true ∧ parts.build = "" then none
      else some { parts with prerelease := parts.prerelease.shown } := by
  have hstrip : strip (parts.display g).toList = (parts.display g).toList :=
    stripWhile_eq_self (fun c hc => h.not_blank c (List.mem_of_mem_head? hc))
      (fun c hc => h.not_blank c (List.mem_of_getLast? hc))
  have hread := @readParts_written g parts h [] fun _ hc => absurd hc (Option.not_mem_none _)
  simp only [List.append_nil, and_true] at hread
  rw [readVersion, hstrip, Parts.display, String.toList_append, String.toList_append,
    List.append_assoc, hread]
  by_cases hpadded : parts.prerelease.isPadded = true ∧ parts.build = ""
  · simp only [if_pos hpadded]
  · simp only [if_neg hpadded]

end

/-! ### Numbers of a version -/

/-- A wildcard becomes a zero, and a number stays as it is. -/
theorem isWritable_segmentValue {n : Int} (h : IsWritable n) : IsWritable (segmentValue n) := by
  obtain ⟨hn, hfits⟩ | rfl := h
  · have hsame : (segmentValue n : Int) = n := by
      unfold segmentValue
      omega
    rw [hsame]
    exact .inl ⟨hn, hfits⟩
  · exact .inl ⟨Int.natCast_nonneg _, by decide⟩

theorem segmentValue_natCast (n : Nat) : segmentValue n = n := by
  unfold segmentValue
  omega

theorem natCast_ne_wildcard (n : Nat) : (n : Int) ≠ wildcardSegment := by
  unfold wildcardSegment
  omega

theorem Parts.IsWritable.numbers {g : Grammar} {parts : Parts} (h : parts.IsWritable g) :
    Parts.IsWritable g ⟨⟨segmentValue parts.core.major, segmentValue parts.core.minor,
      segmentValue parts.core.patch⟩, parts.prerelease, parts.build⟩ where
  core := ⟨isWritable_segmentValue h.core.major, isWritable_segmentValue h.core.minor,
    isWritable_segmentValue h.core.patch⟩
  prerelease := h.prerelease
  dated _ _ := natCast_ne_wildcard _
  build := h.build
  built := h.built

/-! ### Prereleases -/

theorem shown_of_not_isStable {p : Prerelease} (h : p.isStable = false) : p.shown = p := by
  rw [Prerelease.shown, h, if_neg Bool.false_ne_true]

/-- Nothing is lost of a prerelease that has an identifier, or no text at all. -/
theorem shown_eq_self {p : Prerelease} (h : p.text = "" ∨ p.identifiers ≠ []) : p.shown = p := by
  obtain h | h := h
  · rcases p with ⟨text⟩
    obtain rfl : text = "" := h
    rfl
  · exact shown_of_not_isStable (Bool.eq_false_iff.2 fun hstable =>
      h ((Prerelease.isStable_iff p).1 hstable))

theorem order_shown_self (p : Prerelease) : p.shown.order p = .eq := by
  rw [order_shown]
  exact Std.ReflCmp.compare_self

/-- A number with a leading zero does not end a text. -/
theorem isPadded_of_readPrerelease {p : Prerelease} {cs : List Char}
    (h : readPrerelease cs = some (p, [])) : p.isPadded = false := by
  unfold readPrerelease at h
  split at h
  · rename_i id
    simp only at h
    split at h
    · cases h
    · split at h
      · cases h
      · rename_i hnumber
        simp only [Option.some.injEq, Prod.mk.injEq] at h
        obtain ⟨rfl, hrest⟩ := h
        have hid : id.takeWhile isIdentifierChar = id := by
          have hall := List.takeWhile_append_dropWhile (p := isIdentifierChar) (l := id)
          rwa [hrest, List.append_nil] at hall
        rw [Prerelease.isPadded, String.toList_ofList, hid]
        exact Bool.eq_false_iff.2 hnumber
  · cases h
    rfl

theorem isPadded_of_readVersion {text : String} {parts : Parts}
    (h : readVersion .date text = some parts) : parts.prerelease.isPadded = false := by
  obtain ⟨⟨core, cs⟩, -, h⟩ := Option.bind_eq_some_iff.1 (readVersion_eq_some.1 h)
  obtain ⟨⟨p, cs⟩, hp, h⟩ := Option.bind_eq_some_iff.1 h
  simp only [(readBuild_chars .date cs).2 rfl, Option.some.injEq, Prod.mk.injEq] at h
  obtain ⟨rfl, rfl⟩ := h
  exact isPadded_of_readPrerelease hp

/-! ### Semantic versions -/

namespace Semantic

def parts (v : Semantic) : Parts := ⟨v.core, v.prerelease, v.build⟩

/-- The version with the prerelease that is written. -/
def shown (v : Semantic) : Semantic := { v with prerelease := v.prerelease.shown }

/-- The text ends in a number that no text may end in. -/
def EndsPadded (v : Semantic) : Prop := v.prerelease.isPadded = true ∧ v.build = ""

instance (v : Semantic) : Decidable v.EndsPadded := inferInstanceAs (Decidable (_ ∧ _))

theorem display_parts (v : Semantic) : v.display = v.parts.display .semantic := by
  rw [display, Parts.display, writeBuild]
  rfl

theorem isWritable_parse {text : String} {v : Semantic} (h : parse text = .ok v) :
    v.parts.IsWritable .semantic := by
  obtain ⟨parts, hread, rfl⟩ := parse_eq_ok.1 h
  exact (readParts_writable (readVersion_eq_some.1 hread)).numbers

theorem semantic_parts (v : Semantic) (p : Prerelease) :
    Parts.semantic { v.parts with prerelease := p } = { v with prerelease := p } := by
  simp [Parts.semantic, parts, core, segmentValue_natCast]

/-- What becomes of the text that a version is written as. -/
theorem parse_written {text : String} {v : Semantic} (h : parse text = .ok v) :
    parse v.display = if v.EndsPadded then .error (.invalidVersion v.display) else .ok v.shown := by
  have hread := readVersion_written (isWritable_parse h)
  rw [← display_parts] at hread
  by_cases hends : v.EndsPadded
  · rw [if_pos (show v.parts.prerelease.isPadded = true ∧ v.parts.build = "" from hends)] at hread
    rw [if_pos hends, parse, hread]
  · rw [if_neg (show ¬ (v.parts.prerelease.isPadded = true ∧ v.parts.build = "") from hends)]
      at hread
    rw [if_neg hends, parse_eq_ok]
    exact ⟨_, hread, (semantic_parts v _).symm⟩

theorem display_shown (v : Semantic) : v.shown.display = v.display := by
  simp only [display, shown, writePrerelease_shown]
  rfl

theorem order_shown_self (v : Semantic) : v.shown.order v = .eq := by
  have hcore : v.shown.core.order v.core = .eq := (Core.order_eq_iff _ _).2 rfl
  rw [order, hcore]
  exact Version.order_shown_self v.prerelease

end Semantic

/-! ### Calendar versions -/

/-- All three numbers fit 32 bits. -/
def Parts.FitsCalendar (parts : Parts) : Prop :=
  (Calendar.fits parts.core.major && Calendar.fits parts.core.minor &&
    Calendar.fits parts.core.patch) = true

instance (parts : Parts) : Decidable parts.FitsCalendar :=
  inferInstanceAs (Decidable (_ = true))

def Parts.calendar (parts : Parts) : Calendar :=
  ⟨segmentValue parts.core.major, segmentValue parts.core.minor, segmentValue parts.core.patch,
    parts.prerelease⟩

namespace Calendar

def parts (v : Calendar) : Parts := ⟨v.core, v.prerelease, ""⟩

/-- The version with the prerelease that is written. -/
def shown (v : Calendar) : Calendar := { v with prerelease := v.prerelease.shown }

theorem parse_eq_ok {text : String} {v : Calendar} : parse text = .ok v ↔
    ∃ parts, readVersion .date text = some parts ∧ parts.FitsCalendar ∧ v = parts.calendar := by
  unfold parse
  cases readVersion .date text with
  | none => simp
  | some parts =>
    show (if parts.FitsCalendar then .ok parts.calendar else .error _) = Except.ok v ↔ _
    by_cases hfits : parts.FitsCalendar
    · simp [hfits, eq_comm]
    · simp [hfits]

theorem fits_segmentValue (n : Int) : fits (segmentValue n) = fits n := by
  rw [fits, segmentValue_natCast, fits]

theorem display_parts (v : Calendar) : v.display = v.parts.display .date := by
  simp [display, Parts.display, parts, writeBuild]

/-- What becomes of the text that a version is written as. -/
theorem parse_written {text : String} {v : Calendar} (h : parse text = .ok v) :
    parse v.display = .ok v.shown := by
  obtain ⟨parts, hread, hfits, rfl⟩ := parse_eq_ok.1 h
  have hwritable := readParts_writable (readVersion_eq_some.1 hread)
  have hbuild : parts.build = "" := hwritable.built rfl
  have hparts : parts.calendar.parts.IsWritable .date := by
    have hnumbers := hwritable.numbers
    rwa [hbuild] at hnumbers
  have hpadded : ¬ (parts.calendar.parts.prerelease.isPadded = true ∧
      parts.calendar.parts.build = "") := by
    rintro ⟨hpadded, -⟩
    rw [show parts.calendar.parts.prerelease = parts.prerelease from rfl,
      isPadded_of_readVersion hread] at hpadded
    cases hpadded
  rw [display_parts, parse_eq_ok, readVersion_written hparts, if_neg hpadded]
  refine ⟨_, rfl, ?_, ?_⟩
  · simpa only [Parts.FitsCalendar, Calendar.parts, Calendar.core, Parts.calendar,
      fits_segmentValue] using hfits
  · simp [Parts.calendar, Calendar.parts, Calendar.core, segmentValue_natCast, shown]

theorem display_shown (v : Calendar) : v.shown.display = v.display := by
  simp only [display, shown, writePrerelease_shown]
  rfl

theorem order_shown_self (v : Calendar) : v.shown.order v = .eq := by
  have hcore : v.shown.core.order v.core = .eq := (Core.order_eq_iff _ _).2 rfl
  rw [order, hcore]
  exact Version.order_shown_self v.prerelease

end Calendar

/-! ### Versions -/

/-- **Versions are read back from what they are written as**, unless they end in a number that no
text may end in. What a semantic version is written as is read again, with the same numbers and
build: as a version that is level with it in the order, is written the same, and is the same
version unless that has a prerelease without identifiers. The one exception is a version without a
build whose prerelease is of digits only, more than one and the first a zero: its text is refused.
Calendar versions are read back without exception. -/
theorem versions_read_back (text : String) :
    (∀ v, Semantic.parse text = .ok v →
      (¬ v.EndsPadded → ∃ w, Semantic.parse v.display = .ok w ∧ w.major = v.major ∧
        w.minor = v.minor ∧ w.patch = v.patch ∧ w.build = v.build ∧ w.order v = .eq ∧
        w.display = v.display ∧
        (v.prerelease.text = "" ∨ v.prerelease.identifiers ≠ [] → w = v)) ∧
      (v.EndsPadded → Semantic.parse v.display = .error (.invalidVersion v.display))) ∧
    (∀ v, Calendar.parse text = .ok v →
      ∃ w, Calendar.parse v.display = .ok w ∧ w.year = v.year ∧ w.month = v.month ∧
        w.day = v.day ∧ w.order v = .eq ∧ w.display = v.display ∧
        (v.prerelease.text = "" ∨ v.prerelease.identifiers ≠ [] → w = v)) := by
  constructor
  · intro v h
    have hwritten := Semantic.parse_written h
    constructor
    · intro hends
      rw [if_neg hends] at hwritten
      refine ⟨v.shown, hwritten, rfl, rfl, rfl, rfl, v.order_shown_self, v.display_shown, ?_⟩
      intro hkept
      rw [Semantic.shown, shown_eq_self hkept]
    · intro hends
      rwa [if_pos hends] at hwritten
  · intro v h
    refine ⟨v.shown, Calendar.parse_written h, rfl, rfl, rfl, v.order_shown_self,
      v.display_shown, ?_⟩
    intro hkept
    rw [Calendar.shown, shown_eq_self hkept]

/-- Blanks, a `v`, a wildcard, a fourth segment, doubled separators, and a number with a leading
zero in front of a build; and a year alone with a separator behind it. -/
theorem versions_read_back_loose :
    let v : Semantic := ⟨1, 0, 3, ⟨"007"⟩, "b-7."⟩
    let day : Calendar := ⟨22, 0, 0, .none⟩
    Semantic.parse " v1..x.3.4-007+b-7. " = .ok v ∧ ¬ v.EndsPadded ∧
      Calendar.parse "22-" = .ok day ∧
      (∃ w, Semantic.parse v.display = .ok w ∧ w.major = v.major ∧ w.minor = v.minor ∧
        w.patch = v.patch ∧ w.build = v.build ∧ w.order v = .eq ∧ w.display = v.display ∧
        (v.prerelease.text = "" ∨ v.prerelease.identifiers ≠ [] → w = v)) ∧
      ∃ w, Calendar.parse day.display = .ok w ∧ w.year = day.year ∧ w.month = day.month ∧
        w.day = day.day ∧ w.order day = .eq ∧ w.display = day.display ∧
        (day.prerelease.text = "" ∨ day.prerelease.identifiers ≠ [] → w = day) := by
  intro v day
  have hv : Semantic.parse " v1..x.3.4-007+b-7. " = .ok v :=
    Semantic.parse_eq_ok.2 ⟨⟨⟨1, -1, 3⟩, ⟨"007"⟩, "b-7."⟩, by decide +kernel, rfl⟩
  have hday : Calendar.parse "22-" = .ok day :=
    Calendar.parse_eq_ok.2 ⟨⟨⟨22, -1, -1⟩, .none, ""⟩, by decide +kernel, by decide, rfl⟩
  have hends : ¬ v.EndsPadded := by decide
  exact ⟨hv, hends, hday, ((versions_read_back _).1 v hv).1 hends,
    (versions_read_back _).2 day hday⟩

/-- A plus without a build lets a version end in a number that its own text cannot end in. -/
theorem padded_unread :
    let v : Semantic := ⟨1, 0, 0, ⟨"01"⟩, ""⟩
    Semantic.parse "1.0.0-01+" = .ok v ∧ v.display = "1.0.0-01" ∧
      ¬ ∃ w, Semantic.parse v.display = .ok w := by
  intro v
  have hv : Semantic.parse "1.0.0-01+" = .ok v :=
    Semantic.parse_eq_ok.2 ⟨⟨⟨1, 0, 0⟩, ⟨"01"⟩, ""⟩, by decide +kernel, rfl⟩
  refine ⟨hv, by decide +kernel, ?_⟩
  rintro ⟨w, hw⟩
  rw [Semantic.parse_written hv, if_pos (by decide)] at hw
  cases hw

end Sift.Version
