import Sift.Proofs.Condition.Location
import Sift.Proofs.Value.Keyed

/-! Functions do not depend on the order of their arguments.

A function looks its arguments up by their keys, and a body finds its function by the one key that
the registry knows. So bodies that correspond member by member are read as the same expression
(`compile_matched`), provided that no two keys are the same, and that the registry knows one only.
What the host brings along may do as it likes; here it has to look its arguments up as well
(`Registry.LooksUp`). -/
namespace Sift.Function

open Text

variable {r : Registry}

/-! ### Registry -/

theorem find?_congr {a b : String} (h : sameAscii a b = true) : r.find? a = r.find? b := by
  rw [Registry.find?, Registry.find?, lowerText_congr h]

theorem contains_congr {a b : String} (h : sameAscii a b = true) :
    r.contains a = r.contains b := by
  rw [Registry.contains, Registry.contains, find?_congr h]

theorem functions_foldl (fs : List Builtin) (hdistinct : (fs.map fun f => lowerText f.name).Nodup)
    (hnew : ∀ f ∈ fs, ∀ e ∈ r.functions, e.1 ≠ lowerText f.name) :
    (fs.foldl (fun r f => r.register f.name (.library f)) r).functions =
      r.functions ++ fs.map fun f => (lowerText f.name, .library f) := by
  induction fs generalizing r with
  | nil => rw [List.foldl_nil, List.map_nil, List.append_nil]
  | cons f fs ih =>
    obtain ⟨hf, hdistinct⟩ := List.nodup_cons.1 hdistinct
    have hkept : (r.register f.name (.library f)).functions =
        r.functions ++ [(lowerText f.name, .library f)] := by
      refine congrArg (· ++ _) (List.filter_eq_self.2 fun e he => bne_iff_ne.2 ?_)
      exact hnew f List.mem_cons_self e he
    rw [List.foldl_cons, ih hdistinct, hkept, List.append_assoc]
    · rfl
    · rw [hkept]
      intro g hg e he
      rcases List.mem_append.1 he with he | he
      · exact hnew g (List.mem_cons_of_mem _ hg) e he
      · rw [List.mem_singleton.1 he]
        intro heq
        exact hf (List.mem_map.2 ⟨g, hg, heq.symm⟩)

/-- The functions of the library under their names in lower case. -/
def libraryNames : List (String × Builtin) := Builtin.all.map fun f => (lowerText f.name, f)

theorem lookup_map {β γ : Type} (g : β → γ) (key : String) (l : List (String × β)) :
    (l.map fun e => (e.1, g e.2)).lookup key = (l.lookup key).map g := by
  induction l with
  | nil => rfl
  | cons e l ih =>
    rw [List.map_cons, List.lookup_cons, List.lookup_cons, ih]
    cases key == e.1 <;> rfl

/-- What is known where nothing was registered. -/
theorem find?_standard (engine : Engine) (name : String) :
    (Registry.standard engine).find? name =
      (libraryNames.lookup (lowerText name)).map .library := by
  have hfunctions := functions_foldl (r := .empty engine) Builtin.all (by decide +kernel)
    fun _ _ _ he => absurd he List.not_mem_nil
  rw [Registry.find?, Registry.standard, hfunctions, ← lookup_map, libraryNames, List.map_map]
  rfl

theorem find?_library (engine : Engine) {name : String} {f : Builtin}
    (h : libraryNames.lookup (lowerText name) = some f) :
    (Registry.standard engine).find? name = some (.library f) := by
  rw [find?_standard, h, Option.map_some]

/-- What the host brings along sees of its arguments what is found under keys. -/
def Registry.LooksUp (r : Registry) : Prop :=
  ∀ name build, r.find? name = some (.host build) → ∀ args args' : Arguments,
    (∀ key, args.get? key = args'.get? key) → build args = build args'

theorem looksUp_standard (engine : Engine) : (Registry.standard engine).LooksUp := by
  intro name build hfind
  rw [find?_standard] at hfind
  obtain ⟨f, -, hf⟩ := Option.map_eq_some_iff.1 hfind
  cases hf

/-- The registry knows just one of the keys. -/
def KnowsOne (r : Registry) (members : List (String × α)) : Prop :=
  ((members.map Prod.fst).filter r.contains).length = 1

instance (members : List (String × α)) : Decidable (KnowsOne r members) :=
  inferInstanceAs (Decidable (_ = _))

/-! ### Arguments -/

theorem apply_congr (engine : Engine) (f : Builtin) {args args' : Arguments}
    (h : ∀ key, args.get? key = args'.get? key) :
    f.apply? engine args = f.apply? engine args' := by
  cases f <;> simp only [ Builtin.apply?, Arguments.text?, Arguments.long?, Arguments.bool?,
    Arguments.texts?, Arguments.literal?, h]

theorem apply_found (hr : r.LooksUp) {name : String} {f : Maker} (hf : r.find? name = some f)
    {args args' : Arguments} (h : ∀ key, args.get? key = args'.get? key) :
    f.expr? r.engine args = f.expr? r.engine args' := by
  cases f with
  | library f => exact apply_congr r.engine f h
  | host build => rw [Maker.expr?, Maker.expr?, hr name build hf args args' h]

theorem get?_matched {args args' : Arguments} (h : Matched (fun _ e e' => e = e') args args')
    (key : String) : args.get? key = args'.get? key :=
  rel_eq (rel_imp (h.first? key) fun _ _ ⟨_, _, he⟩ => he)

/-- The one key that is known finds the function, wherever it stands. -/
theorem applyKnown_matched (hr : r.LooksUp) {args args' : Arguments}
    (h : Matched (fun _ e e' => e = e') args args') (hone : KnowsOne r args) (p q : String) :
    (applyKnown r p args).toOption = (applyKnown r q args').toOption := by
  have hunique {m n : String × Expr} (hm : m ∈ args) (hn : n ∈ args)
      (hkm : r.contains m.1 = true) (hkn : r.contains n.1 = true) : m.1 = n.1 := by
    obtain ⟨key, hkey⟩ := List.length_eq_one_iff.1 hone
    have hmem {m : String × Expr} (hm : m ∈ args) (hkm : r.contains m.1 = true) : m.1 = key := by
      rw [← List.mem_singleton, ← hkey, List.mem_filter]
      exact ⟨List.mem_map_of_mem hm, hkm⟩
    rw [hmem hm hkm, hmem hn hkn]
  unfold applyKnown
  cases hfind : List.find? (fun a => r.contains a.1) args with
  | none =>
    obtain ⟨key, hkey⟩ := List.length_eq_one_iff.1 hone
    have hmem : key ∈ (args.map Prod.fst).filter r.contains := hkey ▸ List.mem_singleton_self key
    rw [List.mem_filter, List.mem_map] at hmem
    obtain ⟨⟨m, hm, rfl⟩, hknown⟩ := hmem
    exact absurd hknown (List.find?_eq_none.1 hfind m hm)
  | some m =>
    have hm := List.mem_of_find?_eq_some hfind
    have hkm := List.find?_some hfind
    obtain ⟨n, hn, hmn, -⟩ := h.paired.exists_partner hm
    cases hfind' : List.find? (fun a => r.contains a.1) args' with
    | none =>
      have hkn := List.find?_eq_none.1 hfind' n hn
      rw [← contains_congr hmn] at hkn
      exact absurd hkm hkn
    | some n =>
      obtain ⟨m', hm', hmn', -⟩ := h.paired.symm.exists_partner (List.mem_of_find?_eq_some hfind')
      have hkn := List.find?_some hfind'
      simp only [← contains_congr hmn'] at hkn
      have hsame := hunique hm hm' hkm hkn
      simp only
      rw [hsame, find?_congr hmn']
      cases hf : r.find? n.1 with
      | none => rfl
      | some f =>
        rw [Option.bind_some, Option.bind_some, apply_found hr hf (get?_matched h)]
        cases f.expr? r.engine args' <;> rfl

/-! ### Bodies -/

/-- Two arguments are read as the same expression, wherever they stand. -/
def SameArgument (r : Registry) (v w : Value) : Prop :=
  ∀ p q, (compileArgument r p v).toOption = (compileArgument r q w).toOption

def SameBody (r : Registry) (v w : Value) : Prop :=
  ∀ p q, (compile r p v).toOption = (compile r q w).toOption

/-- Arguments are read one by one. -/
theorem compileArguments_cons (p : String) (key : String) (v : Value)
    (rest : List (String × Value)) : (compileArguments r p ((key, v) :: rest)).toOption =
      (compileArgument r p v).toOption.bind fun arg =>
        (compileArguments r p rest).toOption.map ((key, arg) :: ·) := by
  rw [compileArguments, toOption_bind, compileArgument_location r _ p]
  refine congrArg _ (funext fun arg => ?_)
  rw [toOption_bind]
  cases (compileArguments r p rest).toOption <;> rfl

theorem compileArguments_keys {p : String} {members : List (String × Value)} {args : Arguments}
    (h : (compileArguments r p members).toOption = some args) :
    args.map Prod.fst = members.map Prod.fst := by
  induction members generalizing args with
  | nil =>
    cases h
    rfl
  | cons m members ih =>
    rw [compileArguments_cons] at h
    obtain ⟨arg, -, h⟩ := Option.bind_eq_some_iff.1 h
    obtain ⟨rest, hrest, rfl⟩ := Option.map_eq_some_iff.1 h
    rw [List.map_cons, List.map_cons, ih hrest]

theorem compileArguments_forall₂ {members partners : List (String × Value)}
    (h : List.Forall₂ (UnderSameKey fun _ => SameArgument r) members partners) (p : String) :
    Option.Rel (List.Forall₂ (UnderSameKey fun _ => Eq))
      (compileArguments r p members).toOption (compileArguments r p partners).toOption := by
  induction h with
  | nil => exact .some .nil
  | cons hmn _ ih =>
    rw [compileArguments_cons, compileArguments_cons, hmn.2 p p]
    refine rel_bind (rel_refl (fun _ => rfl) _) ?_
    rintro arg _ - rfl
    exact rel_map ih fun _ _ hrest => .cons ⟨hmn.1, rfl⟩ hrest

theorem compileArguments_perm {members partners : List (String × Value)}
    (h : members.Perm partners) (p : String) : Option.Rel List.Perm
      (compileArguments r p members).toOption (compileArguments r p partners).toOption := by
  induction h with
  | nil => exact .some .nil
  | cons m _ ih =>
    rw [compileArguments_cons, compileArguments_cons]
    refine rel_bind (rel_refl (fun _ => rfl) _) ?_
    rintro arg _ - rfl
    exact rel_map ih fun _ _ hrest => hrest.cons _
  | swap m n rest =>
    rw [compileArguments_cons, compileArguments_cons, compileArguments_cons,
      compileArguments_cons]
    cases (compileArgument r p m.2).toOption <;> cases (compileArgument r p n.2).toOption <;>
      cases (compileArguments r p rest).toOption
    case some.some.some => exact .some (.swap _ _ _)
    all_goals exact .none
  | trans _ _ ih ih' =>
    refine rel_imp (rel_trans ih ih') ?_
    rintro _ _ ⟨_, h, h'⟩
    exact h.trans h'

/-- A body with other cases of its keys, in another order, is read as the same expression. -/
theorem compile_matched (hr : r.LooksUp) {members partners : List (String × Value)}
    (h : Matched (fun _ => SameArgument r) members partners) (hone : KnowsOne r members) :
    SameBody r (.object members) (.object partners) := by
  intro p q
  obtain ⟨hdistinct, between, hpairs, hperm⟩ := h
  have hargs : Option.Rel (Paired (UnderSameKey fun _ => Eq))
      (compileArguments r p members).toOption (compileArguments r q partners).toOption := by
    rw [compileArguments_location r q p]
    exact rel_trans (compileArguments_forall₂ hpairs p) (compileArguments_perm hperm p)
  rw [compile, compile, toOption_bind, toOption_bind]
  refine rel_eq (rel_bind hargs fun args args' hfound hpaired => ?_)
  have hkeys := compileArguments_keys hfound
  have hmatched : Matched (fun _ => Eq) args args' := by
    refine ⟨?_, hpaired⟩
    rw [DistinctKeys, hkeys]
    exact hdistinct
  have hknows : KnowsOne r args := by
    rw [KnowsOne, hkeys]
    exact hone
  rw [applyKnown_matched hr hmatched hknows p q]
  exact rel_refl (fun _ => rfl) _

/-- The body of a function that is given its main argument and no other. -/
theorem compile_only {path name : String} {v : Value} {arg e : Expr} {f : Maker}
    (hknown : r.find? name = some f)
    (harg : compileArgument r (path ++ "." ++ name) v = .ok arg)
    (happly : f.expr? r.engine [(name, arg)] = some e) :
    compile r path (.object [(name, v)]) = .ok e := by
  have hargs : compileArguments r path [(name, v)] = .ok [(name, arg)] := by
    rw [compileArguments, harg]
    rfl
  rw [compile, hargs]
  show applyKnown r path [(name, arg)] = _
  unfold applyKnown
  rw [List.find?_cons, Registry.contains, hknown]
  dsimp only [Option.isSome_some]
  rw [hknown, Option.bind_some, happly]

/-! ### Arguments that are bodies or lists -/

/-- A mapping among the arguments is a body, unless it is below the key of functions. -/
theorem compileArgument_object {members : List (String × Value)}
    (h : body? (.object members) = none) (p : String) :
    compileArgument r p (.object members) = compile r p (.object members) := by
  match members with
  | [] => rfl
  | [(key, inner)] =>
    have hkey : ¬ key = functionKey := by
      rintro rfl
      rw [body?, if_pos rfl] at h
      cases h
    rw [compileArgument, if_neg hkey, compile, compileArguments]
    cases compileArgument r (p ++ "." ++ key) inner <;> rfl
  | m :: n :: more => rfl

theorem compileArgument_wrapped (p : String) (v : Value) :
    compileArgument r p (.object [(functionKey, v)]) = compile r p v := by
  rw [compileArgument, if_pos rfl]

/-- The key of functions has no letter, so it is written in one way only. -/
theorem eq_functionKey {key : String} (h : sameAscii key functionKey = true) :
    key = functionKey := by
  have hascii : ∀ n < 128, (Char.ofNat n).toLower = '$' → Char.ofNat n = '$' := by decide +kernel
  have hchars := String.ofList_inj.1 (sameAscii_eq_true.1 h)
  obtain ⟨c, hkey, hc⟩ : ∃ c, key.toList = [c] ∧ c.toLower = '$' := by
    match hkey : key.toList, hchars with
    | [c], hchars => exact ⟨c, rfl, (List.cons.inj hchars).1⟩
    | [], hchars => cases hchars
    | _ :: _ :: _, hchars => cases (List.cons.inj hchars).2
  have hdollar : c = '$' := by
    by_cases hlower : c.toLower = c
    · rw [← hlower, hc]
    · rw [← Char.ofNat_toNat c] at hc ⊢
      exact hascii _ (toNat_of_toLower_ne hlower) hc
  rw [hdollar] at hkey
  exact String.toList_inj.1 hkey

theorem body?_partners {R : String → Value → Value → Prop}
    {members partners : List (String × Value)} (h : Paired (UnderSameKey R) members partners)
    (hbody : body? (.object members) = none) : body? (.object partners) = none := by
  obtain ⟨-, rfl⟩ | ⟨⟨key, v⟩, ⟨key', w⟩, rfl, rfl, hsame, -⟩ | ⟨-, _, _, _, rfl⟩ := h.few
  · rfl
  · rw [body?] at hbody ⊢
    split at hbody
    · cases hbody
    · rename_i hkey
      refine if_neg fun hkey' => hkey (eq_functionKey ?_)
      subst hkey'
      exact hsame
  · rfl

theorem sameArgument_items {items partners : List Value}
    (h : List.Forall₂ (SameArgument r) items partners) :
    SameArgument r (.array items) (.array partners) := by
  intro p q
  have hitems (i j : Nat) : (compileItems r p i items).toOption =
      (compileItems r q j partners).toOption := by
    induction h generalizing i j with
    | nil => rfl
    | cons hvw _ ih =>
      refine toOption_bind_congr (hvw _ _) fun item => ?_
      exact toOption_bind_congr (ih (i + 1) (j + 1)) fun _ => rfl
  exact toOption_bind_congr (hitems 0 0) fun _ => rfl

end Sift.Function
