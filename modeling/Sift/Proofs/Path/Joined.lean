import Mathlib.Data.List.Forall2
import Sift.Proofs.Path.Displayed
import Sift.Proofs.Path.Found
import Sift.Proofs.Path.Respelling

/-! Paths behind paths.

A path that leads to one value may have another one written behind it, and the two together lead
from the document where the second one leads from that value. For this the second one must not
refer to the root, which is another value in the document, and must not start with a mark, which
cannot stand behind the dot between the two (`Program.Relative`). Then its text goes on where the
text of the first one ends (`SpellsPath.behind`), the tokens of both are compiled to the segments of
both (`compileSegments_append`), and those of the second one take over from the one value
(`walk_append`). -/
namespace Sift.Path

open Text

/-! ### Tokens behind tokens -/

theorem drop_filter (ps ts : List Token) :
    (ps ++ .endFilter :: ts).drop (ps.length + 1) = ts := by
  rw [← List.drop_drop, List.drop_left]
  rfl

theorem compileSegments_append {s : Setting} {size size' : Nat} {ts us : List Token}
    {front back : List Segment} (h : compileSegments s size ts = .ok front)
    (h' : compileSegments s size' us = .ok back) :
    compileSegments s size' (ts ++ us) = .ok (front ++ back) := by
  induction ts using (measure List.length).wf.induction generalizing front with
  | _ ts ih =>
    cases ts with
    | nil =>
      rw [compileSegments_nil] at h
      cases h
      exact h'
    | cons t rest =>
      by_cases ht : t = .startFilter
      · subst ht
        obtain ⟨n, p, tail, hn, hp, htail, rfl⟩ := (compileSegments_filter s size _ _).1 h
        obtain ⟨ps, after, rfl, rfl, hends⟩ := filterLength_split hn
        rw [List.take_left] at hp
        rw [drop_filter] at htail
        have hshorter : after.length < (Token.startFilter :: (ps ++ .endFilter :: after)).length := by
          simp only [List.length_cons, List.length_append]
          omega
        rw [List.cons_append, List.append_assoc, List.cons_append]
        refine (compileSegments_filter s size' _ _).2 ⟨ps.length, p, _, hends _, ?_, ?_, rfl⟩
        · rw [List.take_left]
          exact hp
        · rw [drop_filter]
          exact ih after hshorter htail
      · obtain ⟨segment, tail, hs, htail, rfl⟩ := (compileSegments_cons s size ht _ _).1 h
        exact (compileSegments_cons s size' ht _ _).2
          ⟨segment, _, hs, ih rest (Nat.lt_succ_self _) htail, rfl⟩

/-- Outside of filters each token is compiled to a segment of its own. -/
theorem compileSegments_segments {s : Setting} {size : Nat} {ts : List Token}
    {segments : List Segment}
    (h : List.Forall₂ (fun t segment => t.segment? = some segment) ts segments) :
    compileSegments s size ts = .ok segments := by
  induction h with
  | nil => exact compileSegments_nil s size
  | @cons t segment ts segments ht _ ih =>
    have hopen : t ≠ .startFilter := by
      intro hopen
      rw [hopen] at ht
      cases ht
    exact (compileSegments_cons s size hopen _ _).2 ⟨segment, segments, ht, ih, rfl⟩

/-- How many tokens the whole has is only told in errors. -/
theorem compileSegments_size {s : Setting} {size : Nat} (size' : Nat) {ts : List Token}
    {segments : List Segment} (h : compileSegments s size ts = .ok segments) :
    compileSegments s size' ts = .ok segments := by
  have happend := compileSegments_append h (compileSegments_nil s size')
  rw [List.append_nil, List.append_nil] at happend
  exact happend

theorem compile_eq_ok {engine : Engine} {path : String} {limit : Nat} {p : Program} :
    Program.compile engine path limit = .ok p ↔ ∃ ts segments, Spelled ts path ∧
      compileSegments ⟨path, engine, limit⟩ ts.length ts = .ok segments ∧
      p = .mk (trim path) ts segments := by
  rw [Program.compile, bind_eq_ok]
  constructor
  · intro h
    obtain ⟨ts, hts, h⟩ := h
    obtain ⟨segments, hs, rfl⟩ := (compileTokens_eq_ok _ ts p).1 h
    exact ⟨ts, segments, tokenize_eq_ok.1 hts, hs, rfl⟩
  · intro h
    obtain ⟨ts, segments, hts, hs, rfl⟩ := h
    exact ⟨ts, tokenize_eq_ok.2 hts, (compileTokens_eq_ok _ ts _).2 ⟨segments, hs, rfl⟩⟩

/-- A plain name is a path, which leads to the member of this name. -/
theorem compile_name {name : String} (h : isPlainName name = true) (engine : Engine) (limit : Nat) :
    Program.compile engine name limit =
      .ok (.mk name [.member name false] [.member name false]) := by
  obtain ⟨run, hname, -, hrun, -, -⟩ := isPlainName_spec h
  have hnonblank : ∀ c ∈ name.toList, isBlank c = false := by
    intro c hc
    obtain hplain | hdollar := hname
    · exact isBlank_of_isNameChar (hrun c (hplain ▸ hc))
    · rw [hdollar, List.mem_cons] at hc
      obtain rfl | hc := hc
      · exact isBlank_delimiter '$' (by decide)
      · exact isBlank_of_isNameChar (hrun c hc)
  have hstrip : strip name.toList = name.toList := by
    have hpadded := strip_padded gap_nil gap_nil hnonblank
    rwa [List.nil_append, List.append_nil] at hpadded
  have hspelled : Spelled [.member name false] name := by
    have hspells : SpellsName name (name.toList ++ []) [] :=
      spellsName_display h fun _ hc => nomatch hc
    rw [List.append_nil] at hspells
    rw [Spelled, hstrip]
    exact .name hspells .nil
  refine compile_eq_ok.2 ⟨_, _, hspelled, compileSegments_segments (.cons rfl .nil), ?_⟩
  rw [trim, hstrip, String.ofList_toList]

section Walk

variable {α : Type} [Viewable α] {o : QueryOptions} {root : α}

/-- Behind segments that lead to one value, the walk goes on from there. -/
theorem walk_append {front back : List Segment} {v u : α}
    (hsingle : front.any Segment.isSequence = false) (h : reach o root front v = [u]) :
    walk o root (front ++ back) v = walk o root back u := by
  induction front generalizing v with
  | nil =>
    cases h
    rfl
  | cons segment rest ih =>
    rw [List.any_cons, Bool.or_eq_false_iff] at hsingle
    rw [reach] at h
    -- A segment that is no sequence hands one value on, or none at all.
    have taken {w : Option α} (hw : (w.toList.flatMap (reach o root rest)) = [u]) :
        Hits.ofOption (walk o root (rest ++ back)) w = walk o root back u := by
      cases w with
      | none => cases hw
      | some w => exact ih hsingle.2 (by simpa using hw)
    cases segment with
    | root => exact taken (w := some root) h
    | current => exact taken (w := some v) h
    | member name marked => exact taken h
    | index i => exact taken h
    | _ => cases hsingle.1

/-- A path that is no sequence leads to a value where its segments reach just this one. -/
theorem evaluate_scalar_iff {p : Program} (h : p.isSequence = false) (v : α) :
    p.evaluate o root = some (.scalar v) ↔ reach o root p.segments root = [v] := by
  have hvalues := values_resolve o root p root
  rw [Program.evaluate, h, ← hvalues]
  cases hf : (resolve o root p root).found with
  | false => simp [resolve_found o root p root hf]
  | true =>
    obtain ⟨u, hu⟩ := values_of_scalar h hf
    simp [hu]

theorem evaluate_congr {p q : Program} {v : α} (hsequence : q.isSequence = p.isSequence)
    (h : resolve o root q root = resolve o v p v) : q.evaluate o root = p.evaluate o v := by
  rw [Program.evaluate, Program.evaluate, h, hsequence]

/-- The source of a program is a path that it could have been compiled from. -/
theorem compile_source {engine : Engine} {path : String} {limit : Nat} {p : Program}
    (h : Program.compile engine path limit = .ok p) (o : QueryOptions) (root : α) :
    ∃ q, Program.compile engine p.source limit = .ok q ∧ q.source = p.source ∧ q.tokens = p.tokens ∧
      q.isSequence = p.isSequence ∧ q.evaluate o root = p.evaluate o root := by
  obtain ⟨ts, segments, hts, hsegments, rfl⟩ := compile_eq_ok.1 h
  have hpattern : (⟨path, engine, limit⟩ : Setting).pattern? =
      (⟨trim path, engine, limit⟩ : Setting).pattern? :=
    rfl
  obtain ⟨segments', hsegments', hwalk⟩ :=
    compileSegments_elsewhere (o := o) hpattern ts.length hsegments (.inl (Eq.refl root))
  have htrim : strip (trim path).toList = strip path.toList := by
    rw [trim, String.toList_ofList, strip_strip]
  have hsource : trim (trim path) = trim path := congrArg String.ofList htrim
  have hspelled : Spelled ts (trim path) := by
    rw [Spelled, htrim]
    exact hts
  have hcompile : Program.compile engine (trim path) limit = .ok (.mk (trim path) ts segments') :=
    compile_eq_ok.2 ⟨ts, _, hspelled, hsegments', by rw [hsource]⟩
  have hsequence : segments'.any Segment.isSequence = segments.any Segment.isSequence := by
    rw [isSequence_compileSegments hsegments', isSequence_compileSegments hsegments]
  refine ⟨_, hcompile, rfl, rfl, hsequence, evaluate_congr hsequence ?_⟩
  rw [resolve, resolve, hwalk]

end Walk

/-! ### Text behind text -/

variable {more : List Char}

theorem Ends.further {p : Char → Bool} {rest : List Char} (h : Ends p rest) (hmore : Ends p more) :
    Ends p (rest ++ more) := by
  cases rest with
  | nil => exact hmore
  | cons c rest => exact h

theorem SpellsName.further {n : String} {text rest : List Char} (h : SpellsName n text rest)
    (hmore : Ends isNameChar more) : SpellsName n (text ++ more) (rest ++ more) := by
  cases h with
  | quoted hq =>
    rw [List.append_assoc]
    exact .quoted hq
  | plain hrun hname hne hends =>
    rw [List.append_assoc]
    exact .plain hrun hname hne (hends.further hmore)

theorem SpellsSelector.further {t : Token} {text rest : List Char}
    (h : SpellsSelector t text rest) (hmore : Ends isNameChar more) :
    SpellsSelector t (text ++ more) (rest ++ more) := by
  cases h with
  | member hn => exact .member (hn.further hmore)
  | marked hn => exact .marked (hn.further hmore)
  | descendant hn => exact .descendant (hn.further hmore)
  | everywhere => exact .everywhere
  | memberWild => exact .memberWild
  | bracket hb =>
    rw [List.cons_append, List.append_assoc, List.cons_append]
    exact .bracket hb

/-- What stands behind a word in a predicate is not the end of the text. -/
theorem SpellsWord.further {t : Token} {text rest : List Char} (h : SpellsWord t text rest)
    (hrest : rest ≠ []) : SpellsWord t (text ++ more) (rest ++ more) := by
  have ends {p : Char → Bool} (h : Ends p rest) : Ends p (rest ++ more) := by
    cases rest with
    | nil => exact absurd rfl hrest
    | cons c rest => exact h
  cases h with
  | operator ht hends =>
    rw [List.append_assoc]
    exact .operator ht fun hone => ends (hends hone)
  | text hq =>
    rw [List.append_assoc]
    exact .text hq
  | integer hi hends =>
    rw [List.append_assoc]
    exact .integer hi (ends hends)
  | truth hb hends =>
    rw [List.append_assoc]
    exact .truth hb (ends hends)

theorem SpellsWord.ne_nil {t : Token} {text rest : List Char} (h : SpellsWord t text rest)
    (hrest : rest ≠ []) : text ≠ [] := by
  cases h with
  | _ => exact List.append_ne_nil_of_right_ne_nil _ hrest

theorem Spells.ne_nil {level : Level} {ts : List Token} {text rest : List Char}
    (h : Spells level ts text rest) (hrest : rest ≠ []) : text ≠ [] := by
  induction h with
  | nil => exact hrest
  | selector ht _ _ =>
    obtain ⟨c, cs, rfl, -⟩ := ht.head
    exact List.cons_ne_nil c cs
  | word _ ht _ ih => exact List.append_ne_nil_of_right_ne_nil _ (ht.ne_nil (ih hrest))
  | reference _ _ _ _ _ ihs ih =>
    exact List.append_ne_nil_of_right_ne_nil _
      (List.append_ne_nil_of_right_ne_nil _ (ihs (ih hrest)))
  | group _ _ _ _ _ _ => exact List.append_ne_nil_of_right_ne_nil _ (List.cons_ne_nil _ _)
  | _ => exact List.cons_ne_nil _ _

/-- What a text spells is spelled as well where more of a path comes behind it. A predicate does not
end there. -/
theorem Spells.further {level : Level} {ts : List Token} {text rest : List Char}
    (h : Spells level ts text rest) (hmore : StartsWith ['.', '['] more)
    (hrest : level = .predicate → rest ≠ []) : Spells level ts (text ++ more) (rest ++ more) := by
  have hname : Ends isNameChar more := hmore.ends (by decide +kernel)
  induction h with
  | nil => exact .nil
  | selector ht _ ih => exact .selector (ht.further hname) (ih fun hlevel => nomatch hlevel)
  | dot _ ih => exact .dot (ih fun hlevel => nomatch hlevel)
  | @filter ps ts gap body gap' mid rest hgap _ hgap' hgroup _ ihp ih =>
    have hbody := ihp fun _ => List.append_ne_nil_of_right_ne_nil _ (List.cons_ne_nil _ _)
    rw [List.append_assoc, List.cons_append] at hbody
    rw [List.cons_append, List.append_assoc, List.cons_append]
    exact .filter hgap hbody hgap' hgroup (ih fun hlevel => nomatch hlevel)
  | @enclosed ps ts gap gap₁ body gap₂ gap₃ mid rest hgap hgap₁ _ hgap₂ hgap₃ _ ihp ih =>
    have hbody := ihp fun _ => List.append_ne_nil_of_right_ne_nil _ (List.cons_ne_nil _ _)
    rw [List.append_assoc, List.cons_append, List.append_assoc, List.cons_append] at hbody
    rw [List.cons_append, List.append_assoc, List.cons_append, List.append_assoc,
      List.cons_append]
    exact .enclosed hgap hgap₁ hbody hgap₂ hgap₃ (ih fun hlevel => nomatch hlevel)
  | word hgap ht hts ih =>
    rw [List.append_assoc]
    exact .word hgap (ht.further (hts.ne_nil (hrest rfl))) (ih hrest)
  | @reference t us ts gap text mid rest hgap ht _ hends hts ihs ih =>
    rw [List.append_assoc, List.append_assoc]
    refine .reference hgap ht (ihs fun hlevel => nomatch hlevel) ?_ (ih hrest)
    cases mid with
    | nil => exact absurd rfl (hts.ne_nil (hrest rfl))
    | cons c mid => exact hends
  | @group us ts gap body gap' mid rest hgap _ hgap' _ ihu ih =>
    have hbody := ihu fun _ => List.append_ne_nil_of_right_ne_nil _ (List.cons_ne_nil _ _)
    rw [List.append_assoc, List.cons_append] at hbody
    rw [List.append_assoc, List.cons_append]
    exact .group hgap hbody hgap' (ih hrest)

/-- A path goes on with what is spelled behind it. Only a path that is a reference and a lone dot
would have its dot taken for a part of that. -/
theorem SpellsPath.behind {ts us : List Token} {text : List Char} (h : SpellsPath ts text)
    (hmore : Spells .path us more [])
    (hstarts : StartsWith ['['] more ∨ (StartsWith ['.'] more ∧ text.getLast? ≠ some '.')) :
    SpellsPath (ts ++ us) (text ++ more) := by
  have hopens : StartsWith ['.', '['] more := by
    obtain hstarts | ⟨hstarts, -⟩ := hstarts
    · exact hstarts.mono (by decide)
    · exact hstarts.mono (by decide)
  have hname : Ends isNameChar more := hopens.ends (by decide +kernel)
  have further {ts : List Token} {text : List Char} (h : Spells .path ts text []) :
      Spells .path (ts ++ us) (text ++ more) [] :=
    (h.further hopens fun hlevel => nomatch hlevel).trans hmore
  cases h with
  | root hends hs => exact .root (hends.further hname) (further hs)
  | current hs => exact .current (further hs)
  | dot hs => exact .dot (further hs)
  | name hn hs => exact .name (hn.further hname) (further hs)
  | bare hbare hs => exact .bare (hbare.append more) (further hs)
  | lone hlone =>
    -- The lone dot is one in front of a bracket now.
    have hbracket : StartsWith ['['] more := by
      refine hstarts.resolve_right fun hdot => hdot.2 ?_
      rcases hlone with rfl | rfl | rfl <;> rfl
    obtain ⟨c, hc, hhead⟩ := hbracket
    obtain rfl := List.mem_singleton.1 hc
    obtain ⟨rest, rfl⟩ : ∃ rest, more = '[' :: rest := by
      cases more with
      | nil => cases hhead
      | cons d rest =>
        cases hhead
        exact ⟨rest, rfl⟩
    rcases hlone with rfl | rfl | rfl
    · exact .dot (.dot hmore)
    · exact .root (ends_cons (by decide +kernel)) (.dot hmore)
    · exact .current (.dot hmore)

theorem getLast?_behind {text : List Char} (hmore : more ≠ []) :
    (text ++ more).getLast? = more.getLast? := by
  rw [List.getLast?_append, List.getLast?_eq_some_getLast hmore, Option.some_or]

/-- A text without white space around it has none where more comes behind it that does not end with
white space. -/
theorem strip_behind {text : List Char} (h : strip text = text) (hne : text ≠ [])
    (hmore : more ≠ []) (hlast : ∀ c ∈ more.getLast?, isBlank c = false) :
    strip (text ++ more) = text ++ more := by
  obtain ⟨c, cs, rfl⟩ := List.exists_cons_of_ne_nil hne
  have hhead := head_stripWhile isBlank (c :: cs)
  rw [← strip, h] at hhead
  refine stripWhile_eq_self hhead ?_
  rw [getLast?_behind hmore]
  exact hlast

theorem last_bracket (h : more.getLast? = some ']') : ∀ c ∈ more.getLast?, isBlank c = false := by
  intro c hc
  rw [h] at hc
  cases hc
  exact isBlank_delimiter ']' (by decide)

/-! ### Paths that may stand behind another one -/

/-- A path that may stand behind another one. -/
structure Program.Relative (p : Program) : Prop where
  rootless : Token.root ∉ p.tokens
  unmarked : p.source.toList.head? ≠ some '+'

theorem relative_name {name : String} (h : isPlainName name = true) (segments : List Segment) :
    (Program.mk name [.member name false] segments).Relative := by
  obtain ⟨run, hname, -, hrun, -, -⟩ := isPlainName_spec h
  refine ⟨by simp [Program.tokens], ?_⟩
  show name.toList.head? ≠ some '+'
  obtain hplain | hdollar := hname
  · intro hplus
    rw [hplain] at hplus
    have hplus := hrun '+' (List.mem_of_head? hplus)
    exact absurd hplus (by decide +kernel)
  · rw [hdollar, List.head?_cons]
    decide

/-- What stands between a path and the one behind it. -/
def hinge (back : List Char) : List Char := if back.head? = some '[' then [] else ['.']

theorem SpellsPath.hinged {ts : List Token} {text : List Char} (h : SpellsPath ts text)
    (hroot : Token.root ∉ ts) (hmark : text.head? ≠ some '+') :
    Spells .path ts (hinge text ++ text) [] := by
  cases h with
  | name hn hs =>
    obtain ⟨c, cs, rfl, hc⟩ := hn.head
    have hdot : hinge (c :: cs) = ['.'] := by
      refine if_neg fun hbracket => ?_
      cases hbracket
      exact absurd hc (by decide +kernel)
    rw [hdot]
    exact .selector (.member hn) hs
  | bare hbare hs =>
    obtain ⟨c, hc, hhead⟩ := hbare
    have hbracket : hinge text = [] := by
      obtain rfl | rfl : c = '+' ∨ c = '[' := by simpa using hc
      · exact absurd hhead hmark
      · exact if_pos hhead
    rw [hbracket]
    exact hs
  | _ => exact absurd List.mem_cons_self hroot

theorem startsWith_hinge (text : List Char) : StartsWith ['['] (hinge text ++ text) ∨
    StartsWith ['.'] (hinge text ++ text) := by
  by_cases hbracket : text.head? = some '['
  · rw [hinge, if_pos hbracket]
    exact .inl ⟨'[', List.mem_singleton_self _, hbracket⟩
  · rw [hinge, if_neg hbracket]
    exact .inr ⟨'.', List.mem_singleton_self _, rfl⟩

/-! ### Paths that lead to one value -/

section Leads

variable {α : Type} [Viewable α] {engine : Engine} {limit : Nat} {o : QueryOptions} {root v : α}

/-- A path, written without white space around it, leads from the root to one value. -/
structure Leads (engine : Engine) (limit : Nat) (o : QueryOptions) (root : α) (path : String)
    (v : α) : Prop where
  trimmed : strip path.toList = path.toList
  leads : ∃ p, Program.compile engine path limit = .ok p ∧ p.isSequence = false ∧
    p.evaluate o root = some (.scalar v)

/-- What is spelled behind such a path goes on from its value. -/
theorem Leads.goesOn {path whole : String} {us : List Token} {back : List Segment}
    (h : Leads engine limit o root path v) (hmore : Spells .path us more [])
    (hstarts : StartsWith ['['] more ∨
      (StartsWith ['.'] more ∧ path.toList.getLast? ≠ some '.'))
    (hlast : ∀ c ∈ more.getLast?, isBlank c = false)
    (hwhole : whole.toList = path.toList ++ more)
    (hback : compileSegments ⟨whole, engine, limit⟩ us.length us = .ok back) :
    strip whole.toList = whole.toList ∧ ∃ q, Program.compile engine whole limit = .ok q ∧
      q.isSequence = back.any Segment.isSequence ∧
      resolve o root q root = walk o root back v := by
  obtain ⟨htrim, p, hp, hsingle, heval⟩ := h
  obtain ⟨ts, segments, hts, hsegments, rfl⟩ := compile_eq_ok.1 hp
  rw [Spelled, htrim] at hts
  have hspells : SpellsPath (ts ++ us) whole.toList := by
    rw [hwhole]
    exact hts.behind hmore hstarts
  have hne : more ≠ [] := by
    intro hnil
    subst hnil
    obtain ⟨_, -, hnil⟩ | ⟨⟨_, -, hnil⟩, -⟩ := hstarts <;> cases hnil
  have hstrip : strip whole.toList = whole.toList := by
    rw [hwhole]
    exact strip_behind htrim hts.ne_nil hne hlast
  have hpattern : (⟨path, engine, limit⟩ : Setting).pattern? =
      (⟨whole, engine, limit⟩ : Setting).pattern? := rfl
  obtain ⟨front, hfront, hwalk⟩ :=
    compileSegments_elsewhere (o := o) hpattern ts.length hsegments (.inl (Eq.refl root))
  have hfrontSingle : front.any Segment.isSequence = false := by
    rw [isSequence_compileSegments hfront, ← isSequence_compileSegments hsegments]
    exact hsingle
  have hreach : reach o root front root = [v] := by
    rw [← values_walk, ← hwalk, values_walk]
    exact (evaluate_scalar_iff hsingle v).1 heval
  refine ⟨hstrip, _, compile_eq_ok.2 ⟨ts ++ us, front ++ back, ?_, ?_, rfl⟩, ?_, ?_⟩
  · rw [Spelled, hstrip]
    exact hspells
  · exact compileSegments_append hfront (compileSegments_size _ hback)
  · show (front ++ back).any Segment.isSequence = _
    rw [List.any_append, hfrontSingle, Bool.false_or]
  · exact walk_append hfrontSingle hreach

theorem item?_of_getElem? {i : Nat} {item : α} (h : (View.items v)[i]? = some item) :
    View.item? v i = some item := by
  obtain ⟨hlt, -⟩ := List.getElem?_eq_some_iff.1 h
  have hplace : place? (View.items v).length i = some i := by
    have hnonneg : ¬ (i : Int) < 0 := by omega
    simp only [place?, if_neg hnonneg]
    exact if_pos ⟨by omega, by omega⟩
  rw [View.item?, hplace]
  exact h

/-- The index of an item leads on to the item. -/
theorem Leads.item {path : String} {i : Nat} {item : α} (h : Leads engine limit o root path v)
    (hitem : (View.items v)[i]? = some item) (hi : fitsInt64 i = true) :
    Leads engine limit o root s!"{path}[{i}]" item := by
  let bracket : List Char := '[' :: ((toString i).toList ++ [']'])
  have hmore : Spells .path [.index i] bracket [] :=
    .selector (.bracket (.numbers (.index (.last (padded_self (numeral_display hi)))))) .nil
  have hlast : bracket.getLast? = some ']' := by
    show ('[' :: (toString i).toList ++ [']']).getLast? = _
    rw [List.getLast?_concat]
  have hback : compileSegments ⟨s!"{path}[{i}]", engine, limit⟩ 1 [.index i] = .ok [.index i] :=
    compileSegments_segments (.cons rfl .nil)
  obtain ⟨hstrip, q, hq, hsingle, hresolve⟩ := h.goesOn hmore
    (.inl ⟨'[', List.mem_singleton_self _, rfl⟩) (last_bracket hlast) (toList_indexed path i) hback
  refine ⟨hstrip, q, hq, hsingle, (evaluate_scalar_iff hsingle item).2 ?_⟩
  rw [← values_resolve, hresolve, values_walk, reach, Segment.step, item?_of_getElem? hitem]
  rfl

/-- **A relative path goes on from where another one leads.** -/
theorem Leads.behind {path back whole : String} {p : Program}
    (h : Leads engine limit o root path v) (hends : path.toList.getLast? ≠ some '.')
    (hp : Program.compile engine back limit = .ok p)
    (hrel : p.Relative)
    (hwhole : whole.toList = path.toList ++ (hinge p.source.toList ++ p.source.toList)) :
    strip whole.toList = whole.toList ∧ ∃ q, Program.compile engine whole limit = .ok q ∧
      q.isSequence = p.isSequence ∧ q.evaluate o root = p.evaluate o v := by
  obtain ⟨ts, segments, hts, hsegments, rfl⟩ := compile_eq_ok.1 hp
  have hsource : (trim back).toList = strip back.toList := String.toList_ofList
  have hpattern : (⟨back, engine, limit⟩ : Setting).pattern? =
      (⟨whole, engine, limit⟩ : Setting).pattern? := rfl
  have hroot : SameRoot v root ts := .inr hrel.rootless
  obtain ⟨segments', hback, hwalk⟩ :=
    compileSegments_elsewhere (o := o) hpattern ts.length hsegments hroot
  have hmore := hts.hinged hrel.rootless (hsource ▸ hrel.unmarked)
  have hlast : ∀ c ∈ (hinge (strip back.toList) ++ strip back.toList).getLast?,
      isBlank c = false := by
    rw [getLast?_behind hts.ne_nil]
    exact last_stripWhile isBlank _
  rw [Program.source, hsource] at hwhole
  obtain ⟨hstrip, q, hq, hsequence, hresolve⟩ := h.goesOn hmore
    ((startsWith_hinge _).imp_right fun hdot => ⟨hdot, hends⟩) hlast hwhole hback
  have hsame : q.isSequence = segments.any Segment.isSequence := by
    rw [hsequence, isSequence_compileSegments hback, isSequence_compileSegments hsegments]
  refine ⟨hstrip, q, hq, hsame, evaluate_congr hsame ?_⟩
  rw [hresolve, resolve, hwalk]

theorem Leads.ne_nil {path : String} (h : Leads engine limit o root path v) : path.toList ≠ [] := by
  obtain ⟨p, hp, -⟩ := h.leads
  obtain ⟨ts, _, hts, -, -⟩ := compile_eq_ok.1 hp
  rw [Spelled, h.trimmed] at hts
  exact hts.ne_nil

theorem source_of_trimmed {path : String} {p : Program} (h : strip path.toList = path.toList)
    (hp : Program.compile engine path limit = .ok p) : p.source = path := by
  obtain ⟨ts, segments, -, -, rfl⟩ := compile_eq_ok.1 hp
  show trim path = path
  rw [trim, h, String.ofList_toList]

/-- One path leads on to a value from where another one leads. -/
theorem Leads.trans {path back whole : String} {u : α} {p : Program}
    (h : Leads engine limit o root path v) (hends : path.toList.getLast? ≠ some '.')
    (hback : Leads engine limit o v back u) (hp : Program.compile engine back limit = .ok p)
    (hrel : p.Relative)
    (hwhole : whole.toList = path.toList ++ (hinge back.toList ++ back.toList)) :
    Leads engine limit o root whole u := by
  obtain ⟨htrim, p', hp', hsingle, hleads⟩ := hback
  cases hp.symm.trans hp'
  rw [← source_of_trimmed htrim hp] at hwhole
  obtain ⟨hstrip, q, hq, hsequence, heval⟩ := h.behind hends hp hrel hwhole
  exact ⟨hstrip, q, hq, hsequence.trans hsingle, heval.trans hleads⟩

end Leads

end Sift.Path
