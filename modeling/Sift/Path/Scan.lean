import Sift.Text.Blank
import Sift.Text.Letters
import Sift.Text.Category
import Sift.Text.Integer
import Sift.Text.Ascii
import Sift.Path.Token
import Sift.Path.Error

/-! From the text of a path to its tokens.

The scan goes through the text once, step by step. Its state is the rest of the
text, the tokens of the innermost open level, and the filters that are open
around it. A level is either in the middle of a path, where the next character
has to start a selector, or between the words of a predicate. Every step shortens
the rest of the text or leaves a path for the predicate around it
(`State.step_before`), so the scan ends. -/
namespace Sift.Path

open Text

/-! ### Characters and names -/

/-- Letters, numbers, `_` and `-` make up plain names. -/
def isNameChar (c : Char) : Bool := isLetter c || isNumeric c || c == '_' || c == '-'

def isQuote (c : Char) : Bool := c == '\'' || c == '"'

/-- What stops a scan, with the rest of the text at the place to blame. -/
inductive Fault where
  | unexpected (rest : List Char)
  | unterminatedFilter (rest : List Char)
  | unclosedBracket (rest : List Char)
  | unterminatedString (rest : List Char)
  | invalidNumber (rest : List Char)
  | unknownOperator (rest : List Char) (operator : Char)
  deriving DecidableEq, Repr

/-- A text up to the next `quote`, and what follows the quote. -/
def untilQuote (quote : Char) : List Char → Option (List Char × List Char)
  | [] => none
  | c :: rest =>
    if c = quote then some ([], rest)
    else (untilQuote quote rest).map fun (text, after) => (c :: text, after)

/-- A quoted text, for a rest that starts with its quote. -/
def quotedText (rest : List Char) : Except Fault (String × List Char) :=
  match rest with
  | [] => .error (.unexpected rest)
  | q :: body =>
    match untilQuote q body with
    | some (text, after) => .ok (String.ofList text, after)
    | none => .error (.unterminatedString rest)

/-- The characters of a plain name, which may have a `$` in front, and the rest. -/
def plainRun : List Char → List Char × List Char
  | '$' :: c :: rest =>
    if isNameChar c then
      ('$' :: c :: rest.takeWhile isNameChar, rest.dropWhile isNameChar)
    else ([], '$' :: c :: rest)
  | rest => (rest.takeWhile isNameChar, rest.dropWhile isNameChar)

/-- A plain name; hyphens at its ends do not belong to it. -/
def plainName (rest : List Char) : Except Fault (String × List Char) :=
  let (run, after) := plainRun rest
  let name := stripWhile (· == '-') run
  if name.isEmpty then .error (.unexpected rest) else .ok (String.ofList name, after)

def memberName (rest : List Char) : Except Fault (String × List Char) :=
  match rest with
  | c :: _ => if isQuote c then quotedText rest else plainName rest
  | [] => .error (.unexpected rest)

/-! ### Brackets -/

def skipBlanks (rest : List Char) : List Char := rest.dropWhile isBlank

/-- Blames the open bracket if the text is over, and the next character else. -/
def unexpectedOrUnclosed (opened rest : List Char) : Fault :=
  if rest.isEmpty then .unclosedBracket opened else .unexpected rest

/-- What follows the closing bracket. -/
def closeBracket (opened rest : List Char) : Except Fault (List Char) :=
  match skipBlanks rest with
  | ']' :: after => .ok after
  | rest => .error (unexpectedOrUnclosed opened rest)

theorem untilQuote_length {q : Char} {cs text after : List Char}
    (h : untilQuote q cs = some (text, after)) : after.length < cs.length := by
  induction cs generalizing text with
  | nil => simp [untilQuote] at h
  | cons c rest ih =>
    simp only [untilQuote] at h
    split at h
    · simp at h
      simp [h.2]
    · obtain ⟨⟨t, a⟩, ht, he⟩ := Option.map_eq_some_iff.1 h
      simp only [Prod.mk.injEq] at he
      have := ih (he.2 ▸ ht)
      simp only [List.length_cons]
      omega

theorem quotedText_length {rest after : List Char} {s : String}
    (h : quotedText rest = .ok (s, after)) : after.length < rest.length := by
  unfold quotedText at h
  split at h
  · simp at h
  · split at h
    · rename_i hq
      simp only [Except.ok.injEq, Prod.mk.injEq] at h
      have := untilQuote_length hq
      simp only [List.length_cons, ← h.2]
      omega
    · simp at h

theorem skipBlanks_length (rest : List Char) : (skipBlanks rest).length ≤ rest.length :=
  (List.dropWhile_suffix _).length_le

/-- Further quoted names of a bracket, up to and over its end. -/
def moreNames (opened rest : List Char) : Except Fault (List String × List Char) :=
  match _hr : skipBlanks rest with
  | ',' :: more =>
    if (skipBlanks more).head?.any isQuote then
      match _hq : quotedText (skipBlanks more) with
      | .error fault => .error fault
      | .ok (name, after) => do
        let (names, rest) ← moreNames opened after
        .ok (name :: names, rest)
    else .error (unexpectedOrUnclosed opened (skipBlanks more))
  | ']' :: after => .ok ([], after)
  | rest => .error (unexpectedOrUnclosed opened rest)
termination_by rest.length
decreasing_by
  have h1 := quotedText_length _hq
  have h2 := skipBlanks_length more
  have h3 := skipBlanks_length rest
  rw [_hr, List.length_cons] at h3
  omega

/-- A bracket of quoted names: one is a member, several are a union. -/
def bracketNames (opened rest : List Char) : Except Fault (Token × List Char) := do
  let (name, after) ← quotedText rest
  let (names, after) ← moreNames opened after
  match names with
  | [] => .ok (.member name false, after)
  | _ => .ok (.names (name :: names), after)

/-- The parts of a text between the occurrences of a character. -/
def splitAt (sep : Char) : List Char → List (List Char)
  | [] => [[]]
  | c :: rest =>
    match splitAt sep rest with
    | part :: parts => if c = sep then [] :: part :: parts else (c :: part) :: parts
    | [] => [[c]]

/-- One bound of a slice, which may be left out. -/
def sliceBound (start part : List Char) : Except Fault (Option Int) :=
  let digits := strip part
  if digits.isEmpty then .ok none
  else match readInt64? digits with
    | some i => .ok (some i)
    | none => .error (.invalidNumber start)

def indexNumber (start part : List Char) : Except Fault Int :=
  match readInt64? (strip part) with
  | some i => .ok i
  | none => .error (.invalidNumber start)

/-- What the body of a bracket of numbers means; `start` is where it starts. -/
def numberToken (start body : List Char) : Except Fault Token :=
  if body.contains ':' then
    match splitAt ':' body with
    | [a, b] =>
      if body.contains ',' then .error (.invalidNumber start)
      else do .ok (.slice (← sliceBound start a) (← sliceBound start b) none)
    | [a, b, c] =>
      if body.contains ',' then .error (.invalidNumber start)
      else do .ok (.slice (← sliceBound start a) (← sliceBound start b) (← sliceBound start c))
    | _ => .error (.invalidNumber start)
  else if body.contains ',' then do
    .ok (.indexes (← (splitAt ',' body).mapM (indexNumber start)))
  else do .ok (.index (← indexNumber start body))

def isNumberChar (c : Char) : Bool := c.isDigit || c == '-' || c == ':' || c == ',' || isBlank c

/-- A bracket of an index, of several, or of a slice. -/
def bracketNumbers (opened rest : List Char) : Except Fault (Token × List Char) :=
  let body := rest.takeWhile isNumberChar
  match rest.dropWhile isNumberChar with
  | ']' :: after => do .ok (← numberToken rest body, after)
  | after => .error (unexpectedOrUnclosed opened after)

/-! ### The state of a scan -/

/-- A filter that is open: the text from its bracket on, and what was going on
around it. -/
structure Outer where
  opened : List Char
  tokens : List Token
  groups : Nat

structure State where
  rest : List Char
  /-- The tokens of the innermost level. -/
  tokens : List Token
  /-- The groups open on the innermost level. -/
  groups : Nat
  /-- The filters that are open, the innermost first. -/
  filters : List Outer
  inPath : Bool

namespace State

/-- One more token, and the text behind it. -/
def emit (s : State) (token : Token) (rest : List Char) : State :=
  { s with tokens := s.tokens ++ [token], rest := rest }

/-- A bracket in a path, whose text up to the bracket is `opened`. -/
def bracketStep (s : State) (opened body : List Char) : Except Fault State :=
  match skipBlanks body with
  | [] => .error (.unclosedBracket opened)
  | '?' :: rest =>
    .ok { rest, tokens := [], groups := 0, inPath := false
          filters := ⟨opened, s.tokens, s.groups⟩ :: s.filters }
  | '*' :: rest => do .ok (s.emit .indexWild (← closeBracket opened rest))
  | c :: rest =>
    if isQuote c then do
      let (token, rest) ← bracketNames opened (c :: rest)
      .ok (s.emit token rest)
    else if c = '-' ∨ c = ':' ∨ c.isDigit then do
      let (token, rest) ← bracketNumbers opened (c :: rest)
      .ok (s.emit token rest)
    else .error (.unexpected (c :: rest))

/-- The next selector of a path, or the end of a path inside a filter. -/
def pathStep (s : State) : Except Fault State :=
  match s.rest with
  | '.' :: '.' :: '*' :: rest => .ok (s.emit (.descendant "*" false) rest)
  | '.' :: '.' :: rest => do
    let (name, rest) ← memberName rest
    .ok (s.emit (.descendant name false) rest)
  | '.' :: '*' :: rest => .ok (s.emit .memberWild rest)
  | '.' :: '[' :: rest => .ok { s with rest := '[' :: rest }
  | '.' :: rest =>
    if rest = [] ∧ s.filters.isEmpty ∧ s.tokens = [.root] then .ok { s with rest := [] }
    else do
      let (name, rest) ← memberName rest
      .ok (s.emit (.member name false) rest)
  | '+' :: rest => do
    let (name, rest) ← memberName rest
    .ok (s.emit (.member name true) rest)
  | '[' :: rest => s.bracketStep ('[' :: rest) rest
  | rest => if s.filters.isEmpty then .error (.unexpected rest) else .ok { s with inPath := false }

/-- The group that is open at the start ends with the last token. -/
def spans : Nat → List Token → Bool
  | _, [] => false
  | depth, .startGroup :: rest => spans (depth + 1) rest
  | depth, .endGroup :: rest => if depth ≤ 1 then rest.isEmpty else spans (depth - 1) rest
  | depth, _ :: rest => spans depth rest

/-- A predicate without a group around all of it: the two spellings are one filter. -/
def unwrap : List Token → List Token
  | .startGroup :: body => if spans 1 body then body.dropLast else .startGroup :: body
  | tokens => tokens

/-- Ends the innermost filter; the level around it goes on in its path. -/
def closeFilter (s : State) (outer : Outer) (filters : List Outer) (rest : List Char) : State :=
  { rest, filters, groups := outer.groups, inPath := true
    tokens := outer.tokens ++ [.startFilter] ++ unwrap s.tokens ++ [.endFilter] }

/-- The whole number whose sign and first digit start the text `rest`. -/
def numberStep (s : State) (rest sign digits : List Char) : Except Fault State :=
  match readInt64? (sign ++ digits.takeWhile Char.isDigit) with
  | some i => .ok (s.emit (.integer i) (digits.dropWhile Char.isDigit))
  | none => .error (.invalidNumber rest)

/-- A whole number in a predicate. -/
def integerStep (s : State) (rest : List Char) : Except Fault State :=
  match rest with
  | '-' :: digits => s.numberStep rest ['-'] digits
  | _ => s.numberStep rest [] rest

/-- One of the words `true` and `false`. -/
def wordStep (s : State) (rest : List Char) : Except Fault State :=
  let isWordChar := fun c => isLetter c || isNumeric c
  match readTruth? (String.ofList (rest.takeWhile isWordChar)) with
  | some b => .ok (s.emit (.truth b) (rest.dropWhile isWordChar))
  | none => .error (.unexpected rest)

/-- The next word of a predicate, in the filter `outer`. -/
def filterStep (s : State) (outer : Outer) (filters : List Outer) : Except Fault State :=
  let compare := fun op rest => .ok (s.emit (.compare op) rest)
  match skipBlanks s.rest with
  | [] => .error (.unterminatedFilter outer.opened)
  | ']' :: rest =>
    if s.groups = 0 then .ok (s.closeFilter outer filters rest)
    else .error (.unterminatedFilter outer.opened)
  | '(' :: rest => .ok { s.emit .startGroup rest with groups := s.groups + 1 }
  | ')' :: rest =>
    if s.groups = 0 then .error (.unexpected (')' :: rest))
    else .ok { s.emit .endGroup rest with groups := s.groups - 1 }
  | '@' :: rest => .ok { s.emit .current rest with inPath := true }
  | '$' :: rest => .ok { s.emit .root rest with inPath := true }
  | '!' :: '=' :: rest => compare .ne rest
  | '!' :: rest => .ok (s.emit .not rest)
  | '=' :: '=' :: rest => compare .eq rest
  | '~' :: '=' :: rest => compare .regex rest
  | '<' :: '=' :: rest => compare .le rest
  | '<' :: rest => compare .lt rest
  | '>' :: '=' :: rest => compare .ge rest
  | '>' :: rest => compare .gt rest
  | '&' :: '&' :: rest => .ok (s.emit .and rest)
  | '|' :: '|' :: rest => .ok (s.emit .or rest)
  | c :: rest =>
    if c = '=' ∨ c = '~' ∨ c = '&' ∨ c = '|' then .error (.unknownOperator (c :: rest) c)
    else if isQuote c then do
      let (text, rest) ← quotedText (c :: rest)
      .ok (s.emit (.text text) rest)
    else if c.isDigit ∨ (c = '-' ∧ rest.head?.any Char.isDigit) then s.integerStep (c :: rest)
    else if isLetter c then s.wordStep (c :: rest)
    else .error (.unexpected (c :: rest))

def step (s : State) : Except Fault State :=
  if s.inPath then s.pathStep
  else match s.filters with
    | outer :: filters => s.filterStep outer filters
    | [] => .error (.unexpected s.rest)

/-! ### Every step gets closer to the end -/

/-- The state `t` is closer to the end of the text than `s`. -/
def Before (t s : State) : Prop :=
  t.rest.length < s.rest.length ∨ (t.rest = s.rest ∧ t.inPath = false ∧ s.inPath = true)

end State

theorem plainRun_length (rest : List Char) : (plainRun rest).2.length ≤ rest.length := by
  unfold plainRun
  split
  · split
    · have := (List.dropWhile_suffix (p := isNameChar) (l := ‹List Char›)).length_le
      simp only [List.length_cons]
      omega
    · exact Nat.le_refl _
  · exact (List.dropWhile_suffix _).length_le

theorem plainName_length {rest after : List Char} {s : String}
    (h : plainName rest = .ok (s, after)) : after.length ≤ rest.length := by
  unfold plainName at h
  have hl := plainRun_length rest
  simp only at h
  split at h
  · simp at h
  · simp only [Except.ok.injEq, Prod.mk.injEq] at h
    rw [← h.2]
    exact hl

theorem memberName_length {rest after : List Char} {s : String}
    (h : memberName rest = .ok (s, after)) : after.length ≤ rest.length := by
  unfold memberName at h
  split at h
  · split at h
    · exact Nat.le_of_lt (quotedText_length h)
    · exact plainName_length h
  · simp at h

theorem closeBracket_length {opened rest after : List Char}
    (h : closeBracket opened rest = .ok after) : after.length < rest.length := by
  unfold closeBracket at h
  have hl := skipBlanks_length rest
  split at h
  · rename_i heq
    rw [heq, List.length_cons] at hl
    simp only [Except.ok.injEq] at h
    subst h
    omega
  · simp at h

theorem moreNames_length {opened rest after : List Char} {names : List String}
    (h : moreNames opened rest = .ok (names, after)) : after.length < rest.length := by
  induction rest using (measure List.length).wf.induction generalizing names with
  | _ rest ih =>
    have hl := skipBlanks_length rest
    unfold moreNames at h
    split at h
    · rename_i more hr
      rw [hr, List.length_cons] at hl
      split at h
      · split at h
        · simp at h
        · rename_i name next hq
          have h1 := quotedText_length hq
          have h2 := skipBlanks_length more
          cases hm : moreNames opened next with
          | error e => simp [hm, bind, Except.bind] at h
          | ok r =>
            obtain ⟨ns, rest'⟩ := r
            simp only [hm, bind, Except.bind, Except.ok.injEq, Prod.mk.injEq] at h
            have h3 := ih next (by show next.length < rest.length; omega) (h.2 ▸ hm)
            omega
      · simp at h
    · rename_i hr
      rw [hr, List.length_cons] at hl
      simp only [Except.ok.injEq, Prod.mk.injEq] at h
      rw [← h.2]
      omega
    · simp at h

/-- A computation in two parts succeeds exactly when both do. -/
theorem bind_eq_ok {ε α β : Type} {x : Except ε α} {f : α → Except ε β} {b : β} :
    x >>= f = .ok b ↔ ∃ a, x = .ok a ∧ f a = .ok b := by
  cases x <;> simp [bind, Except.bind]

theorem bracketNames_length {opened rest after : List Char} {t : Token}
    (h : bracketNames opened rest = .ok (t, after)) : after.length < rest.length := by
  unfold bracketNames at h
  obtain ⟨⟨name, mid⟩, hq, h⟩ := bind_eq_ok.1 h
  obtain ⟨⟨names, last⟩, hm, h⟩ := bind_eq_ok.1 h
  have h1 := quotedText_length hq
  have h2 := moreNames_length hm
  simp only at h h2
  split at h <;>
  · simp only [Except.ok.injEq, Prod.mk.injEq] at h
    rw [← h.2]
    omega

theorem bracketNumbers_length {opened rest after : List Char} {t : Token}
    (h : bracketNumbers opened rest = .ok (t, after)) : after.length < rest.length := by
  unfold bracketNumbers at h
  have hl := (List.dropWhile_suffix (p := isNumberChar) (l := rest)).length_le
  simp only at h
  split at h
  · rename_i heq
    rw [heq, List.length_cons] at hl
    obtain ⟨_, _, h⟩ := bind_eq_ok.1 h
    simp only [Except.ok.injEq, Prod.mk.injEq] at h
    rw [← h.2]
    omega
  · simp at h

namespace State

theorem bracketStep_shortens {s t : State} {opened body : List Char}
    (h : s.bracketStep opened body = .ok t) : t.rest.length ≤ body.length := by
  unfold bracketStep at h
  have hl := skipBlanks_length body
  split at h
  · simp at h
  · rename_i heq
    rw [heq, List.length_cons] at hl
    simp only [Except.ok.injEq] at h
    subst h
    simp only
    omega
  · rename_i heq
    rw [heq, List.length_cons] at hl
    obtain ⟨r, hr, h⟩ := bind_eq_ok.1 h
    have := closeBracket_length hr
    simp only [Except.ok.injEq] at h
    subst h
    show r.length ≤ _
    omega
  · rename_i heq
    rw [heq] at hl
    split at h
    · obtain ⟨⟨tok, r⟩, hr, h⟩ := bind_eq_ok.1 h
      have := bracketNames_length hr
      simp only [Except.ok.injEq] at h
      subst h
      show r.length ≤ _
      omega
    · split at h
      · obtain ⟨⟨tok, r⟩, hr, h⟩ := bind_eq_ok.1 h
        have := bracketNumbers_length hr
        simp only [Except.ok.injEq] at h
        subst h
        show r.length ≤ _
        omega
      · simp at h

/-- A step that ends with a member name shortens the text. -/
theorem named_shortens {s t : State} {rest : List Char} (token : String → Token)
    (h : (do
      let (name, after) ← memberName rest
      .ok (s.emit (token name) after) : Except Fault State) = .ok t) :
    t.rest.length ≤ rest.length := by
  obtain ⟨⟨name, after⟩, hn, h⟩ := bind_eq_ok.1 h
  have := memberName_length hn
  simp only [Except.ok.injEq] at h
  subst h
  exact this

theorem pathStep_before {s t : State} (hs : s.inPath = true) (h : s.pathStep = .ok t) :
    Before t s := by
  unfold pathStep at h
  split at h <;> rename_i heq <;> try (rw [Before, heq])
  · simp only [Except.ok.injEq] at h
    subst h
    left
    simp only [emit, List.length_cons]
    omega
  · have := named_shortens (fun n => .descendant n false) h
    left
    simp only [List.length_cons]
    omega
  · simp only [Except.ok.injEq] at h
    subst h
    left
    simp only [emit, List.length_cons]
    omega
  · simp only [Except.ok.injEq] at h
    subst h
    left
    simp only [List.length_cons]
    omega
  · split at h
    · simp only [Except.ok.injEq] at h
      subst h
      left
      simp
    · have := named_shortens (fun n => .member n false) h
      left
      simp only [List.length_cons]
      omega
  · have := named_shortens (fun n => .member n true) h
    left
    simp only [List.length_cons]
    omega
  · have := bracketStep_shortens h
    left
    simp only [List.length_cons]
    omega
  · split at h
    · simp at h
    · simp only [Except.ok.injEq] at h
      subst h
      exact Or.inr ⟨rfl, rfl, hs⟩

theorem numberStep_rest {s t : State} {rest sign digits : List Char}
    (h : s.numberStep rest sign digits = .ok t) : t.rest = digits.dropWhile Char.isDigit := by
  unfold numberStep at h
  split at h
  · simp only [Except.ok.injEq] at h
    subst h
    rfl
  · simp at h

theorem integerStep_shortens {s t : State} {c : Char} {rest : List Char}
    (h : s.integerStep (c :: rest) = .ok t) (hd : c.isDigit = true ∨ c = '-') :
    t.rest.length < (c :: rest).length := by
  have hl := (List.dropWhile_suffix (p := Char.isDigit) (l := rest)).length_le
  unfold integerStep at h
  split at h
  · rename_i heq
    simp only [List.cons.injEq] at heq
    rw [numberStep_rest h, ← heq.2, List.length_cons]
    omega
  · rename_i hne
    rcases hd with hd | hd
    · rw [numberStep_rest h, List.dropWhile_cons, if_pos hd, List.length_cons]
      omega
    · exact absurd (by rw [hd]) (hne rest)

theorem wordStep_shortens {s t : State} {c : Char} {rest : List Char}
    (h : s.wordStep (c :: rest) = .ok t) (hc : isLetter c = true) :
    t.rest.length < (c :: rest).length := by
  unfold wordStep at h
  simp only at h
  split at h
  · simp only [Except.ok.injEq] at h
    subst h
    have := (List.dropWhile_suffix (p := fun c => isLetter c || isNumeric c) (l := rest)).length_le
    simp only [emit, List.dropWhile_cons, hc, Bool.true_or, if_true, List.length_cons]
    omega
  · simp at h

theorem filterStep_before {s t : State} {outer : Outer} {filters : List Outer}
    (h : s.filterStep outer filters = .ok t) : Before t s := by
  have hl := skipBlanks_length s.rest
  unfold filterStep at h
  left
  simp only at h
  split at h <;> (try (rename_i heq; rw [heq] at hl; simp only [List.length_cons] at hl))
  case h_1 => simp at h
  case h_2 =>
    split at h
    · simp only [Except.ok.injEq] at h
      subst h
      simp only [closeFilter]
      omega
    · simp at h
  case h_4 =>
    split at h
    · simp at h
    · simp only [Except.ok.injEq] at h
      subst h
      simp only [emit]
      omega
  case h_17 =>
    split at h
    · simp at h
    · split at h
      · obtain ⟨⟨text, r⟩, hr, h⟩ := bind_eq_ok.1 h
        have := quotedText_length hr
        simp only [Except.ok.injEq] at h
        subst h
        simp only [emit, List.length_cons] at this ⊢
        omega
      · split at h
        · rename_i hd
          have := integerStep_shortens h (hd.imp_right And.left)
          simp only [List.length_cons] at this
          omega
        · split at h
          · rename_i hc
            have := wordStep_shortens h hc
            simp only [List.length_cons] at this
            omega
          · simp at h
  all_goals
    simp only [Except.ok.injEq] at h
    subst h
    simp only [emit]
    omega

theorem step_before {s t : State} (h : s.step = .ok t) : Before t s := by
  unfold step at h
  split at h
  · rename_i hp
    exact pathStep_before hp h
  · split at h
    · exact filterStep_before h
    · simp at h

/-! ### The scan -/

/-- The tokens of the whole text. -/
def run (s : State) : Except Fault (List Token) :=
  if s.rest.isEmpty ∧ s.inPath ∧ s.filters.isEmpty then .ok s.tokens
  else
    match _h : s.step with
    | .ok t => run t
    | .error fault => .error fault
termination_by (s.rest.length, s.inPath.toNat)
decreasing_by
  rcases step_before _h with hlt | ⟨heq, ht, hs⟩
  · exact Prod.Lex.left _ _ hlt
  · rw [heq, ht, hs]
    exact Prod.Lex.right _ (by decide)

/-- What a path starts with: `$`, `@` and a leading dot refer to the root, and a
name is a member of it. -/
def start (text : List Char) : Except Fault State :=
  let at_ := fun tokens rest => (⟨rest, tokens, 0, [], true⟩ : State)
  let named := do
    let (name, rest) ← memberName text
    .ok (at_ [.member name false] rest)
  match text with
  | '$' :: rest => if rest.head?.any isNameChar then named else .ok (at_ [.root] rest)
  | '@' :: rest => .ok (at_ [.root] rest)
  | '.' :: rest => .ok (at_ [.root] (if rest.isEmpty then [] else text))
  | c :: _ => if isNameChar c || isQuote c then named else .ok (at_ [] text)
  | [] => .ok (at_ [] text)

end State

/-- The error that a fault is, in the whole text. -/
def Fault.error (text : List Char) (fault : Fault) : PathError :=
  let path := String.ofList text
  let position := fun (rest : List Char) => text.length - rest.length
  match fault with
  | .unexpected rest =>
    match rest with
    | [] => .unexpectedEnd path (position rest)
    | c :: _ => .unexpectedChar path (position rest) c
  | .unterminatedFilter rest => .unterminatedFilter path (position rest)
  | .unclosedBracket rest => .unclosedBracket path (position rest)
  | .unterminatedString rest => .unterminatedString path (position rest)
  | .invalidNumber rest => .invalidNumber path (position rest)
  | .unknownOperator rest operator =>
    .unknownOperator path (position rest) (String.singleton operator)

/-- The tokens of a path. White space around it does not count. -/
def tokenize (path : String) : Except PathError (List Token) :=
  let text := strip path.toList
  if text.isEmpty then .error .emptyExpression
  else
    match State.start text >>= State.run with
    | .ok tokens => .ok tokens
    | .error fault => .error (fault.error text)

end Sift.Path
