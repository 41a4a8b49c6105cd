import Sift.Proofs.Condition.Opposites
import Sift.Proofs.Function.Arguments
import Sift.Proofs.Path.Patterns
import Sift.Regex.Engine

/-! The patterns of a document.

A document has patterns in three kinds of places: as the parameters of `match` and `notMatch`, in
the filters of its fields, and in the filters of the paths that its functions look up. When a
document is built, the patterns of the first two kinds are compiled under the bound of the builder,
and those of functions, however deep, under the usual bound (`patterns_compile`). So a document may
be built that has a pattern for which the builder leaves no room (`large_pattern_built`). -/
namespace Sift

/-! ### Functions -/

namespace Function

open Text

variable {r : Registry} {path pattern : String} {members : List (String × Value)}
  {args : Arguments}

theorem compileArguments_find {q : String → Bool} {key : String} {v : Value}
    (h : compileArguments r path members = .ok args)
    (hfind : members.find? (fun m => q m.1) = some (key, v)) :
    ∃ place e, args.find? (fun a => q a.1) = some (key, e) ∧ compileArgument r place v = .ok e := by
  induction members generalizing args with
  | nil => cases hfind
  | cons m members ih =>
    obtain ⟨key', v'⟩ := m
    obtain ⟨arg, harg, h⟩ := Path.bind_eq_ok.1 h
    obtain ⟨more, hmore, h⟩ := Path.bind_eq_ok.1 h
    cases h
    rw [List.find?_cons] at hfind ⊢
    dsimp only at hfind ⊢
    cases hq : q key' with
    | true =>
      rw [hq] at hfind
      cases hfind
      exact ⟨_, arg, rfl, harg⟩
    | false =>
      rw [hq] at hfind
      exact ih hmore hfind

theorem compileArguments_mem (h : compileArguments r path members = .ok args)
    {m : String × Value} (hm : m ∈ members) : ∃ place e, compileArgument r place m.2 = .ok e := by
  induction hm generalizing args with
  | head rest =>
    obtain ⟨arg, harg, -⟩ := Path.bind_eq_ok.1 h
    exact ⟨_, arg, harg⟩
  | tail first _ ih =>
    obtain ⟨_, -, h⟩ := Path.bind_eq_ok.1 h
    obtain ⟨more, hmore, -⟩ := Path.bind_eq_ok.1 h
    exact ih hmore

theorem compileItems_mem {items : List Value} {i : Nat} {compiled : List Expr}
    (h : compileItems r path i items = .ok compiled) {v : Value} (hv : v ∈ items) :
    ∃ place e, compileArgument r place v = .ok e := by
  induction hv generalizing i compiled with
  | head rest =>
    obtain ⟨item, hitem, -⟩ := Path.bind_eq_ok.1 h
    exact ⟨_, item, hitem⟩
  | tail first _ ih =>
    obtain ⟨_, -, h⟩ := Path.bind_eq_ok.1 h
    obtain ⟨more, hmore, -⟩ := Path.bind_eq_ok.1 h
    exact ih hmore

/-- Where a value stands: as the body of a function, or as an argument in one. -/
inductive Spot where
  | body
  | argument

/-- What a value is read as where it stands. -/
def compileAt (r : Registry) : Spot → String → Value → Except BuildError Expr
  | .body => compile r
  | .argument => compileArgument r

/-- A path that the function looks up has the pattern, or that of a function among its arguments. -/
inductive HoldsPattern (r : Registry) (pattern : String) : Spot → Value → Prop where
  | path {members : List (String × Value)} {name key text : String} {v : Value} :
    members.find? (fun m => r.contains m.1) = some (name, v) →
    r.find? name = some (.library .path) →
    members.find? (fun m => sameAscii m.1 Builtin.path.name) = some (key, .text text) →
    Path.HoldsPattern text pattern → HoldsPattern r pattern .body (.object members)
  | argument {members : List (String × Value)} {m : String × Value} : m ∈ members →
    HoldsPattern r pattern .argument m.2 → HoldsPattern r pattern .body (.object members)
  | wrapped {v : Value} : HoldsPattern r pattern .body v →
    HoldsPattern r pattern .argument (.object [(functionKey, v)])
  | object {members : List (String × Value)} : body? (.object members) = none →
    HoldsPattern r pattern .body (.object members) →
    HoldsPattern r pattern .argument (.object members)
  | item {items : List Value} {v : Value} : v ∈ items → HoldsPattern r pattern .argument v →
    HoldsPattern r pattern .argument (.array items)

theorem apply_path (engine : Engine) (args : Arguments) :
    Builtin.path.apply? engine args = (args.text? Builtin.path.name).bind fun text =>
      (Path.Program.compile engine text defaultSizeLimit).toOption.map .path := rfl

/-- The function that looks up a path has compiled it under the usual bound. -/
theorem compile_of_apply {engine : Engine} {e : Expr} {key text : String}
    (h : Builtin.path.apply? engine args = some e)
    (hfind : args.find? (fun a => sameAscii a.1 Builtin.path.name) =
      some (key, .constant (.text text))) :
    ∃ p, Path.Program.compile engine text defaultSizeLimit = .ok p := by
  have htext : args.text? Builtin.path.name = some text := by
    rw [Arguments.text?, Arguments.literal?, Arguments.get?, hfind]
    rfl
  rw [apply_path, htext, Option.bind_some] at h
  obtain ⟨p, hp, -⟩ := Option.map_eq_some_iff.1 h
  exact ⟨p, toOption_eq_some.1 hp⟩

/-- All patterns of a function that was compiled fit the usual bound. -/
theorem fits_of_compileAt {spot : Spot} {v : Value} {e : Expr}
    (hp : HoldsPattern r pattern spot v) (h : compileAt r spot path v = .ok e) :
    Path.FitsPattern r.engine defaultSizeLimit pattern := by
  induction hp generalizing path e with
  | @path members name key text v hname hknown hkey hpattern =>
    obtain ⟨args, hargs, h⟩ := Path.bind_eq_ok.1 h
    obtain ⟨_, _, hfind, -⟩ := compileArguments_find (q := r.contains) hargs hname
    obtain ⟨_, _, htext, hconstant⟩ :=
      compileArguments_find (q := fun key => sameAscii key Builtin.path.name) hargs hkey
    cases hconstant
    rw [applyKnown, hfind] at h
    dsimp only at h
    rw [hknown, Option.bind_some, Maker.expr?] at h
    cases happly : Builtin.path.apply? r.engine args with
    | none =>
      rw [happly] at h
      cases h
    | some e =>
      obtain ⟨p, hcompile⟩ := compile_of_apply happly htext
      exact Path.fits_of_compile hcompile hpattern
  | argument hm _ ih =>
    obtain ⟨args, hargs, -⟩ := Path.bind_eq_ok.1 h
    obtain ⟨place, e, harg⟩ := compileArguments_mem hargs hm
    exact ih harg
  | wrapped _ ih => exact ih ((compileArgument_wrapped _ _).symm.trans h)
  | object hbody _ ih => exact ih ((compileArgument_object hbody _).symm.trans h)
  | item hv _ ih =>
    obtain ⟨items, hitems, -⟩ := Path.bind_eq_ok.1 h
    obtain ⟨place, e, harg⟩ := compileItems_mem hitems hv
    exact ih harg

end Function

/-! ### Documents -/

namespace Builder

/-- By whom a pattern is compiled. -/
inductive Route where
  | condition
  | function

/-- The bound under which this is done. -/
def Route.limit (b : Builder) : Route → Nat
  | .condition => b.regexSizeLimit
  | .function => defaultSizeLimit

/-- The document has the pattern, as a parameter, or in a filter of a field or of a function, or one
of the documents in it has. A parameter is for one way to treat case, and a filter for both. -/
inductive HoldsPattern (r : Function.Registry) (pattern : String) (caseSensitive : Bool) :
    Route → Value → Prop where
  | parameter {members : Members} {negated : Bool} {key : String} {f : Flags} :
    combinators members = [] → operators members = [(.matches negated, key, .text pattern)] →
    flags "" members = .ok f → f.caseSensitive = caseSensitive →
    HoldsPattern r pattern caseSensitive .condition (.object members)
  | field {members : Members} {path : String} : member? members "field" = some (.text path) →
    Path.HoldsPattern path pattern →
    HoldsPattern r pattern caseSensitive .condition (.object members)
  | computed {members : Members} {kind : OperatorKind} {key : String} {v body : Value} :
    combinators members = [] → operators members = [(kind, key, v)] →
    kind.takesParameter = true → Function.body? v = some body →
    Function.HoldsPattern r pattern .body body →
    HoldsPattern r pattern caseSensitive .function (.object members)
  | value {members : Members} {v body : Value} : combinators members = [] →
    (∀ key ∈ ["field", "type", "name"], member? members key = none) →
    member? members "value" = some v → Function.body? v = some body →
    Function.HoldsPattern r pattern .body body →
    HoldsPattern r pattern caseSensitive .function (.object members)
  | child {route : Route} {members : Members} {k : Combinator} {v d : Value} {ds : List Value} :
    combinators members = [(k, v)] → children "" k v = .ok ds → d ∈ ds →
    HoldsPattern r pattern caseSensitive route d →
    HoldsPattern r pattern caseSensitive route (.object members)
  | filter {route : Route} {members : Members} {k : Combinator} {v field w : Value} :
    combinators members = [(k, v)] → member? members "field" = some field →
    member? members "where" = some w → HoldsPattern r pattern caseSensitive route w →
    HoldsPattern r pattern caseSensitive route (.object members)

variable {b : Builder} {location path pattern : String} {members : Members}

theorem compile_of_parameter {v body : Value} {p : Parameter} (hbody : Function.body? v = some body)
    (h : b.parameter path v = .ok p) : ∃ e, Function.compile b.functions path body = .ok e := by
  rw [parameter, hbody] at h
  obtain ⟨e, he, -⟩ := map_eq_ok.1 h
  exact ⟨e, he⟩

/-- A function that computes a parameter was compiled. -/
theorem compile_of_operator {f : Flags} {kind : OperatorKind} {v body : Value} {o : Operator}
    (hkind : kind.takesParameter = true) (hbody : Function.body? v = some body)
    (h : b.operator path f kind v = .ok o) :
    ∃ e, Function.compile b.functions path body = .ok e := by
  have hinteger {p : Parameter} (h : b.integer path v = .ok p) :
      ∃ e, Function.compile b.functions path body = .ok e := by
    obtain ⟨q, hq, -⟩ := Path.bind_eq_ok.1 h
    exact compile_of_parameter hbody hq
  cases kind with
  | equals negated =>
    obtain ⟨p, hp, -⟩ := map_eq_ok.1 h
    exact compile_of_parameter hbody hp
  | hasDefault =>
    obtain ⟨p, hp, -⟩ := map_eq_ok.1 h
    exact compile_of_parameter hbody hp
  | count negated =>
    obtain ⟨p, hp, -⟩ := map_eq_ok.1 h
    exact hinteger hp
  | bound bound =>
    obtain ⟨p, hp, -⟩ := map_eq_ok.1 h
    exact hinteger hp
  | «matches» negated =>
    obtain ⟨s, hs, -⟩ := map_eq_ok.1 h
    rw [Builder.pattern, hbody] at hs
    obtain ⟨e, he, -⟩ := map_eq_ok.1 hs
    exact ⟨e, he⟩
  | version g =>
    obtain ⟨s, hs, -⟩ := map_eq_ok.1 h
    rw [constraint, hbody] at hs
    obtain ⟨e, he, -⟩ := map_eq_ok.1 hs
    exact ⟨e, he⟩
  | _ => cases hkind

/-- A value is tested where there is no other subject. -/
theorem subject_value {v : Value}
    (hnone : ∀ key ∈ ["field", "type", "name"], member? members key = none)
    (hvalue : member? members "value" = some v) :
    b.subject path members = (b.parameter path v).map fun p => some (.value p) := by
  rw [subject, hnone "field" (by simp), hnone "type" (by simp), hnone "name" (by simp), hvalue]

theorem compile_of_subject {v body : Value} {s : Option Subject}
    (hnone : ∀ key ∈ ["field", "type", "name"], member? members key = none)
    (hvalue : member? members "value" = some v) (hbody : Function.body? v = some body)
    (h : b.subject path members = .ok s) :
    ∃ e, Function.compile b.functions path body = .ok e := by
  rw [subject_value hnone hvalue] at h
  obtain ⟨p, hp, -⟩ := map_eq_ok.1 h
  exact compile_of_parameter hbody hp

/-- The field of a document is compiled, whether it is that of a leaf or that of a group. -/
theorem field_of_condition {levels : Nat} {c : Condition} {v : Value}
    (h : b.condition levels location (.object members) = .ok c)
    (hv : member? members "field" = some v) : ∃ place p, b.field place v = .ok p := by
  cases levels with
  | zero => cases h
  | succ levels =>
    obtain ⟨_, ⟨⟩, ⟨-, hleaf⟩ | ⟨_, _, _, _, -, -, -, hgroup⟩⟩ := b.condition_eq_ok.1 h
    · obtain ⟨_, _, _, _, _, _, -, -, hs, -⟩ := b.leaf_eq_ok.1 hleaf
      rw [subject, hv] at hs
      obtain ⟨p, hp, -⟩ := map_eq_ok.1 hs
      exact ⟨_, p, hp⟩
    · cases hgroup with
      | group hfield => cases hfield.symm.trans hv
      | forEach hfield hp _ _ =>
        cases hfield.symm.trans hv
        exact ⟨_, _, hp⟩

theorem readAll_mem {read : String → Value → Except BuildError Condition} {i : Nat}
    {ds : List Value} {cs : List Condition} (h : readAll read path i ds = .ok cs) {d : Value}
    (hd : d ∈ ds) : ∃ place c, read place d = .ok c := by
  induction hd generalizing i cs with
  | head rest =>
    obtain ⟨c, hc, -⟩ := Path.bind_eq_ok.1 h
    exact ⟨_, c, hc⟩
  | tail first _ ih =>
    obtain ⟨_, -, h⟩ := Path.bind_eq_ok.1 h
    obtain ⟨cs, hcs, -⟩ := Path.bind_eq_ok.1 h
    exact ih hcs

/-- What a leaf is built from. -/
theorem leaf_of_operators {levels : Nat} {c : Condition} (hnone : combinators members = [])
    (h : b.condition levels location (.object members) = .ok c) :
    ∃ kind key v f s o, operators members = [(kind, key, v)] ∧
      flags (location ++ "." ++ key) members = .ok f ∧
      b.subject (location ++ "." ++ key) members = .ok s ∧
      b.operator (location ++ "." ++ key) f kind v = .ok o := by
  cases levels with
  | zero => cases h
  | succ levels =>
    obtain ⟨_, ⟨⟩, ⟨-, hleaf⟩ | ⟨_, _, _, _, hone, -⟩⟩ := b.condition_eq_ok.1 h
    · obtain ⟨kind, key, v, f, s, o, hone, hf, hs, -, ho, -⟩ := b.leaf_eq_ok.1 hleaf
      exact ⟨kind, key, v, f, s, o, hone, hf, hs, ho⟩
    · cases hnone.symm.trans hone

/-- The documents in a group are read, and so is the filter of its items. -/
theorem group_of_combinators {levels : Nat} {c : Condition} {k : Combinator} {v : Value}
    (hone : combinators members = [(k, v)])
    (h : b.condition (levels + 1) location (.object members) = .ok c) :
    (∀ ds, children "" k v = .ok ds → ∀ d ∈ ds, ∃ place c, b.condition levels place d = .ok c) ∧
      ∀ field w, member? members "field" = some field → member? members "where" = some w →
        ∃ place c, b.condition levels place w = .ok c := by
  obtain ⟨_, ⟨⟩, ⟨hnone, -⟩ | ⟨_, _, ds', _, hone', hds', hcs, hgroup⟩⟩ := b.condition_eq_ok.1 h
  · cases hnone.symm.trans hone
  · cases hone'.symm.trans hone
    refine ⟨fun ds hds d hd => ?_, fun field w hfield hw => ?_⟩
    · have hsame : children (location ++ "." ++ k.name) k v = .ok ds :=
        ok_of_toOption (children_location _ _ k v) hds
      cases hsame.symm.trans hds'
      exact readAll_mem hcs hd
    · cases hgroup with
      | group hnofield => cases hnofield.symm.trans hfield
      | forEach _ _ hfilter _ =>
        cases hfilter with
        | none hnowhere => cases hnowhere.symm.trans hw
        | some hwhere hc =>
          cases hwhere.symm.trans hw
          exact ⟨_, _, hc⟩

theorem compiles_of_condition {levels : Nat} {c : Condition} {route : Route} {v : Value}
    {caseSensitive : Bool} (hp : HoldsPattern b.functions pattern caseSensitive route v)
    (h : b.condition levels location v = .ok c) :
    (b.engine.compile? pattern caseSensitive (route.limit b)).isSome = true := by
  induction hp generalizing levels location c with
  | parameter hnone hone hf hcase =>
    obtain ⟨_, _, _, f', _, _, hone', hf', -, ho⟩ := leaf_of_operators hnone h
    cases hone'.symm.trans hone
    have hflags : flags "" _ = .ok f' := ok_of_toOption (flags_location _ _ _) hf'
    cases hflags.symm.trans hf
    obtain ⟨s, hs, -⟩ := map_eq_ok.1 ho
    obtain ⟨_, p, ⟨⟩, hcompile, -⟩ := pattern_literal rfl hs
    rw [← hcase, Route.limit, hcompile]
    rfl
  | field hfield hpattern =>
    obtain ⟨place, p, hp⟩ := field_of_condition h hfield
    exact Path.fits_of_compile (compile_of_field hp) hpattern caseSensitive
  | computed hnone hone hkind hbody hpattern =>
    obtain ⟨_, _, _, _, _, _, hone', -, -, ho⟩ := leaf_of_operators hnone h
    cases hone'.symm.trans hone
    obtain ⟨e, he⟩ := compile_of_operator hkind hbody ho
    exact Function.fits_of_compileAt hpattern he caseSensitive
  | value hnone hsubject hvalue hbody hpattern =>
    obtain ⟨_, _, _, _, _, _, -, -, hs, -⟩ := leaf_of_operators hnone h
    obtain ⟨e, he⟩ := compile_of_subject hsubject hvalue hbody hs
    exact Function.fits_of_compileAt hpattern he caseSensitive
  | child hone hds hd _ ih =>
    cases levels with
    | zero => cases h
    | succ levels =>
      obtain ⟨place, c, hc⟩ := (group_of_combinators hone h).1 _ hds _ hd
      exact ih hc
  | filter hone hfield hw _ ih =>
    cases levels with
    | zero => cases h
    | succ levels =>
      obtain ⟨place, c, hc⟩ := (group_of_combinators hone h).2 _ _ hfield hw
      exact ih hc

/-! ### A function with a pattern -/

/-- The function that looks up the items with long names. -/
def lookup : Value :=
  .object [(Function.functionKey, .object [("path", .text Path.longNamePath)])]

theorem body?_lookup :
    Function.body? lookup = some (.object [("path", .text Path.longNamePath)]) := by
  rw [lookup, Function.body?, if_pos rfl]

theorem find?_path (engine : Engine) :
    (Function.Registry.standard engine).find? "path" = some (.library .path) :=
  Function.find?_library engine (by decide +kernel)

theorem holds_lookup (engine : Engine) : Function.HoldsPattern (.standard engine) Path.longName
    .body (.object [("path", .text Path.longNamePath)]) :=
  have hknown : (Function.Registry.standard engine).contains "path" = true := by
    rw [Function.Registry.contains, find?_path, Option.isSome_some]
  have hself : Text.sameAscii "path" Function.Builtin.path.name = true := by decide +kernel
  .path (List.find?_cons_of_pos hknown) (find?_path engine) (List.find?_cons_of_pos hself)
    Path.holds_longName

theorem compile_lookup {engine : Engine}
    (hroom : Path.FitsPattern engine defaultSizeLimit Path.longName) :
    ∃ e, ∀ path, Function.compile (.standard engine) path
      (.object [("path", .text Path.longNamePath)]) = .ok e := by
  obtain ⟨p, hp⟩ := Path.compile_longName hroom
  refine ⟨.path p, fun path => Function.compile_only (find?_path engine) rfl ?_⟩
  have htext : Function.Arguments.text? [("path", .constant (.text Path.longNamePath))]
      Function.Builtin.path.name = some Path.longNamePath := rfl
  have hengine : (Function.Registry.standard engine).engine = engine := rfl
  rw [Function.Maker.expr?, hengine, Function.apply_path, htext, Option.bind_some, hp]
  rfl

/-- The test whether a field has what it finds. -/
def lookupTest : Value := .object [("field", .text "a"), ("equals", lookup)]

/-- It is built, whatever room the options leave. -/
theorem condition_lookupTest {engine : Engine}
    (hroom : Path.FitsPattern engine defaultSizeLimit Path.longName) (o : Options) (levels : Nat)
    (location : String) :
    ∃ l, (Builder.of engine o).condition (levels + 1) location lookupTest = .ok l := by
  let b := Builder.of engine o
  obtain ⟨e, he⟩ := compile_lookup hroom
  have hparameter (path : String) : b.parameter path lookup = .ok (.function e) :=
    parameter_function body?_lookup (he path)
  have hoperator (path : String) (f : Flags) :
      b.operator path f (.equals false) lookup = .ok (.equals false (.function e)) :=
    map_eq_ok.2 ⟨_, hparameter path, rfl⟩
  have hsubject (path : String) : b.subject path [("field", .text "a"), ("equals", lookup)] =
      .ok (some (.field (.mk "a" [.member "a" false] [.member "a" false]))) :=
    subject_of_field rfl (field_of_compile (Path.compile_name (by decide +kernel) _ _))
  exact ⟨_, b.condition_eq_ok.2 ⟨_, rfl, .inl ⟨rfl, b.leaf_eq_ok.2 ⟨.equals false, "equals", lookup,
    _, _, _, rfl, rfl, hsubject _, fun _ => ⟨_, rfl⟩, hoperator _ _, rfl⟩⟩⟩⟩

theorem holds_lookupTest (engine : Engine) (caseSensitive : Bool) :
    HoldsPattern (.standard engine) Path.longName caseSensitive .function lookupTest :=
  .computed rfl rfl rfl body?_lookup (holds_lookup engine)

/-- The test whether a text is such a name. -/
def matchTest : Value := .object [("value", .text "aa"), ("match", .text Path.longName)]

theorem condition_matchTest {b : Builder} {p : Pattern}
    (hp : b.engine.compile? Path.longName false b.regexSizeLimit = some p) (levels : Nat)
    (location : String) : ∃ l, b.condition (levels + 1) location matchTest = .ok l := by
  let f : Flags := ⟨false, false, false, false, false, false⟩
  have hpattern (path : String) : b.pattern path f (.text Path.longName) = .ok (.literal p) := by
    have hbody : Function.body? (.text Path.longName) = none := rfl
    rw [pattern, hbody]
    exact Path.bind_eq_ok.2 ⟨Path.longName, rfl,
      Path.bind_eq_ok.2 ⟨p, require_eq_ok.2 hp, rfl⟩⟩
  have hoperator (path : String) : b.operator path f (.matches false) (.text Path.longName) =
      .ok (.matches false (.literal p)) :=
    map_eq_ok.2 ⟨_, hpattern path, rfl⟩
  exact ⟨_, b.condition_eq_ok.2 ⟨_, rfl, .inl ⟨rfl, b.leaf_eq_ok.2
    ⟨.matches false, "match", .text Path.longName, _, _, _, rfl, rfl, rfl,
      fun hneeds => absurd hneeds Bool.false_ne_true, hoperator _, rfl⟩⟩⟩⟩

end Builder

/-! ### All patterns -/

/-- **All patterns of a document that was built compile**, whatever the engine takes for a pattern:
those of its parameters and fields under the bound of the builder, and those of its functions under
the usual one. So all of them compile under the bound of the builder if this is the usual one, or if
no function has any. -/
theorem patterns_compile {engine : Engine} {o : Options} {document : Value} {c : Condition}
    (h : (Builder.of engine o).build document = .ok c) {route : Builder.Route} {pattern : String}
    {caseSensitive : Bool}
    (hp : Builder.HoldsPattern (.standard engine) pattern caseSensitive route document) :
    (engine.compile? pattern caseSensitive (route.limit (Builder.of engine o))).isSome = true ∧
      (route = .condition ∨ o.execution.regexSizeLimit = defaultSizeLimit →
        (engine.compile? pattern caseSensitive o.execution.regexSizeLimit).isSome = true) := by
  have hcompiles := Builder.compiles_of_condition hp h
  refine ⟨hcompiles, ?_⟩
  rintro (rfl | husual)
  · exact hcompiles
  · cases route with
    | condition => exact hcompiles
    | function =>
      rw [husual]
      exact hcompiles

/-- There is room for names of a thousand letters under the usual bound. -/
theorem fits_longName : Path.FitsPattern Regex.engine defaultSizeLimit Path.longName := by
  intro caseSensitive
  cases caseSensitive <;> decide +kernel

/-- One pattern is in a filter and the other one is a parameter, and there is room for both. -/
theorem patterns_compile_usual :
    let b := Builder.of Regex.engine {}
    let document : Value := .object [("allOf", .array [Builder.lookupTest, Builder.matchTest])]
    ∃ c, b.build document = .ok c ∧
      (Regex.engine.compile? Path.longName true defaultSizeLimit).isSome = true ∧
      (Regex.engine.compile? Path.longName false defaultSizeLimit).isSome = true := by
  intro b document
  obtain ⟨p, hp⟩ := Option.isSome_iff_exists.1 (fits_longName false)
  obtain ⟨l, hl⟩ := Builder.condition_lookupTest fits_longName {} 98 ".allOf[0]"
  obtain ⟨m, hm⟩ := @Builder.condition_matchTest b p hp 98 ".allOf[1]"
  have hread : Builder.readAll (b.condition 99) ".allOf" 0
      [Builder.lookupTest, Builder.matchTest] = .ok [l, m] :=
    Path.bind_eq_ok.2 ⟨l, hl, Path.bind_eq_ok.2 ⟨[m], Path.bind_eq_ok.2 ⟨m, hm, rfl⟩, rfl⟩⟩
  have hbuild : b.build document = .ok (.group ".allOf" .allOf [l, m]) :=
    b.condition_eq_ok.2 ⟨_, rfl, .inr ⟨.allOf, _, _, _, rfl, rfl, hread, .group rfl⟩⟩
  have hfunction : Builder.HoldsPattern b.functions Path.longName true .function document :=
    .child rfl rfl (List.mem_cons_self ..) (Builder.holds_lookupTest _ true)
  have hcondition : Builder.HoldsPattern b.functions Path.longName false .condition document :=
    .child rfl rfl (List.mem_cons_of_mem _ (List.mem_cons_self ..)) (.parameter rfl rfl rfl rfl)
  exact ⟨_, hbuild, (patterns_compile hbuild hfunction).2 (.inr rfl),
    (patterns_compile hbuild hcondition).2 (.inl rfl)⟩

/-- With any engine that finds the pattern too large for the options, but not for the usual bound,
the document is built. As a field, the path is refused. -/
theorem lookup_built {engine : Engine} {o : Options}
    (hroom : Path.FitsPattern engine defaultSizeLimit Path.longName)
    (hlarge : engine.compile? Path.longName true o.execution.regexSizeLimit = none)
    (hdepth : 0 < o.execution.maxDepth) :
    (∃ c, (Builder.of engine o).build Builder.lookupTest = .ok c) ∧
      ∀ path p, (Builder.of engine o).field path (.text Path.longNamePath) ≠ .ok p := by
  obtain ⟨levels, hlevels⟩ := Nat.exists_eq_add_one.2 hdepth
  have hmaxDepth : (Builder.of engine o).maxDepth = levels + 1 := hlevels
  refine ⟨?_, fun path p h => ?_⟩
  · rw [Builder.build, hmaxDepth]
    exact Builder.condition_lookupTest hroom o levels ""
  · have hfits := Path.fits_of_compile (Builder.compile_of_field h) Path.holds_longName true
    have hnone : (Builder.of engine o).engine.compile? Path.longName true
        (Builder.of engine o).regexSizeLimit = none := hlarge
    rw [hnone] at hfits
    cases hfits

/-- Options that leave room for small patterns only. -/
def tight : Options := { execution := { regexSizeLimit := 64 } }

/-- The document is built, and there is no room for its pattern. As a field, the path is refused. -/
theorem large_pattern_built :
    let b := Builder.of Regex.engine tight
    (∃ c, b.build Builder.lookupTest = .ok c) ∧
      Builder.HoldsPattern b.functions "^[a-z]{1000}$" true .function Builder.lookupTest ∧
      Regex.engine.compile? "^[a-z]{1000}$" true tight.execution.regexSizeLimit = none ∧
      ∀ path p, b.field path (.text Path.longNamePath) ≠ .ok p := by
  have hlarge : Regex.engine.compile? Path.longName true tight.execution.regexSizeLimit = none :=
    Option.isNone_iff_eq_none.1 (by decide +kernel)
  obtain ⟨hbuilt, hfield⟩ := lookup_built fits_longName hlarge (by decide)
  exact ⟨hbuilt, Builder.holds_lookupTest _ true, hlarge, hfield⟩

end Sift
