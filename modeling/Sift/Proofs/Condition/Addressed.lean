import Sift.Proofs.Condition.Fields
import Sift.Proofs.Path.Joined
import Sift.Selector.Basic
import Sift.Regex.Engine

/-! Reasons that lead back to what was tested.

The path of a reason is the path of the items around a leaf, with the field that the leaf names
behind it. As a path from the target it leads to what the field leads to in the innermost item. For
this the items of a group have to be those of an array, under the path that is written in front of
their indexes, and what stands inside of items must not refer to the target
(`Condition.Addressed`). One item after another is entered then where its path leads
(`Context.Leading.enter`), and the field goes on from there (`Context.Leading.leadsBack`). Where a
single value is taken for an item, an index stands behind its path all the same
(`reasons_lead_astray`). -/
namespace Sift

variable {α : Type}

/-! ### Paths that are joined -/

section Join

variable {a b : String}

theorem toList_separator (b : String) : (separator b).toList = Path.hinge b.toList := by
  have hbracket : b.startsWith "[" = true ↔ b.toList.head? = some '[' := by
    rw [String.startsWith_string_iff]
    cases b.toList with
    | nil => simp
    | cons x xs =>
      show ['['] <+: x :: xs ↔ _
      simp [List.cons_prefix_cons, eq_comm]
  by_cases h : b.startsWith "["
  · rw [separator, Path.hinge, if_pos h, if_pos (hbracket.1 h)]
    rfl
  · rw [separator, Path.hinge, if_neg h, if_neg fun hhead => h (hbracket.2 hhead)]
    rfl

theorem toList_joinPath (ha : isEmptyPath a = false) (hb : isEmptyPath b = false) :
    (joinPath a b).toList = a.toList ++ (Path.hinge b.toList ++ b.toList) := by
  rw [joinPath_eq ha hb, String.toList_append, String.toList_append, toList_separator,
    List.append_assoc]

/-- What ends with a bracket leads somewhere. -/
theorem isEmptyPath_of_bracket (h : a.toList.getLast? = some ']') : isEmptyPath a = false := by
  refine Bool.or_eq_false_iff.2 ⟨?_, ?_⟩
  · rw [Text.isBlankText, List.all_eq_false]
    refine ⟨']', List.mem_of_getLast? h, ?_⟩
    rw [Path.isBlank_delimiter ']' (by decide)]
    exact Bool.false_ne_true
  · rw [beq_eq_false_iff_ne]
    intro hdot
    rw [hdot] at h
    cases h

/-- Only a dot is compiled, and still leads nowhere else. -/
theorem eq_dot_of_compile {engine : Engine} {limit : Nat} {p : Path.Program}
    (h : Path.Program.compile engine a limit = .ok p) (hempty : isEmptyPath a = true) :
    a = "." := by
  obtain ⟨ts, _, hts, -, -⟩ := Path.compile_eq_ok.1 h
  obtain hblank | hdot := Bool.or_eq_true_iff.1 hempty
  · have hgap : Path.Gap a.toList := List.all_eq_true.1 hblank
    have hstrip : Text.strip (a.toList ++ ([] ++ [])) = [] :=
      Path.strip_padded hgap Path.gap_nil fun _ hc => absurd hc List.not_mem_nil
    rw [List.append_nil, List.append_nil] at hstrip
    rw [Path.Spelled, hstrip] at hts
    exact absurd rfl hts.ne_nil
  · exact beq_iff_eq.1 hdot

end Join

/-! ### Where items are entered -/

variable [Viewable α] {engine : Engine} {limit : Nat}

namespace Context

variable {c : Context α}

/-- The path of the innermost item leads to it from the target. -/
def Leading (engine : Engine) (limit : Nat) (c : Context α) : Prop :=
  c.entered = [] ∨ (Path.Leads engine limit c.query c.root c.itemPath c.current ∧
    c.itemPath.toList.getLast? = some ']')

omit [Viewable α] in
theorem itemPath_outside (h : c.entered = []) : c.itemPath = "" := by
  rw [itemPath, h]
  rfl

omit [Viewable α] in
theorem current_outside (h : c.entered = []) : c.current = c.root := by rw [current, h]

omit [Viewable α] in
/-- The path of a target does not end with an index. -/
theorem entered_ne_nil (h : c.itemPath.toList.getLast? = some ']') : c.entered ≠ [] := by
  intro hnil
  rw [itemPath_outside hnil] at h
  cases h

theorem getLast?_indexed (path : String) (i : Nat) :
    s!"{path}[{i}]".toList.getLast? = some ']' := by
  rw [Text.toList_indexed, ← List.cons_append, ← List.append_assoc, List.getLast?_concat]

/-- An item is entered where its path leads, from the target or from another item. -/
theorem Leading.enter {base : String} {i : Nat} {v item : α} (h : c.Leading engine limit)
    (hbase : Path.Leads engine limit c.query c.current base v)
    (hrelative : c.entered ≠ [] → ∃ p, Path.Program.compile engine base limit = .ok p ∧ p.Relative)
    (hitem : (View.items v)[i]? = some item) (hi : Text.fitsInt64 i = true) :
    (c.enter item s!"{base}[{i}]").Leading engine limit := by
  have hplace : isEmptyPath s!"{base}[{i}]" = false :=
    isEmptyPath_of_bracket (getLast?_indexed base i)
  have hpath : (c.enter item s!"{base}[{i}]").itemPath = joinPath c.itemPath s!"{base}[{i}]" := rfl
  rw [Leading, hpath]
  obtain hnil | ⟨hleads, hbracket⟩ := h
  · rw [current_outside hnil] at hbase
    rw [itemPath_outside hnil, joinPath_empty_left isEmptyPath_empty, plainPath_of_path hplace]
    exact .inr ⟨hbase.item hitem hi, getLast?_indexed base i⟩
  · obtain ⟨p, hp, hrel⟩ := hrelative (entered_ne_nil hbracket)
    have hends : c.itemPath.toList.getLast? ≠ some '.' := by
      rw [hbracket]
      decide
    have hwhole : (c.itemPath ++ separator base ++ base).toList =
        c.itemPath.toList ++ (Path.hinge base.toList ++ base.toList) := by
      rw [String.toList_append, String.toList_append, toList_separator, List.append_assoc]
    -- The separator is the same with the index behind the path.
    have hhinge : Path.hinge s!"{base}[{i}]".toList = Path.hinge base.toList := by
      rw [Text.toList_indexed, Path.hinge, Path.hinge, List.head?_append_of_ne_nil _ hbase.ne_nil]
    have hjoin : joinPath c.itemPath s!"{base}[{i}]" =
        s!"{c.itemPath ++ separator base ++ base}[{i}]" := by
      refine String.toList_inj.1 ?_
      rw [toList_joinPath (isEmptyPath_of_bracket hbracket) hplace, hhinge, Text.toList_indexed,
        Text.toList_indexed, hwhole]
      simp only [List.append_assoc]
    rw [hjoin]
    exact .inr ⟨(hleads.trans hends hbase hp hrel hwhole).item hitem hi, getLast?_indexed _ i⟩

end Context

/-- The path of a reason leads from the target to what the field that it names leads to in the item
that was asked. A lone dot names the item itself, and is left out: the path of the target is empty. -/
def Reason.LeadsBack (t : Reason) (engine : Engine) (limit : Nat) (o : Path.QueryOptions)
    (root item : α) : Prop :=
  (t.path = "" ∧ t.operand = "." ∧ item = root) ∨
    ∃ named q, Path.Program.compile engine t.operand limit = .ok named ∧
      Path.Program.compile engine t.path limit = .ok q ∧ q.evaluate o root = named.evaluate o item

theorem Path.compile_dot :
    Path.Program.compile engine "." limit = .ok (.mk "." [.root] [.root]) := by
  have hstrip : Text.strip ".".toList = ['.'] := by decide +kernel
  refine compile_eq_ok.2 ⟨[.root], [.root], ?_, ?_, ?_⟩
  · rw [Spelled, hstrip]
    exact .lone (.inl rfl)
  · exact compileSegments_segments (.cons rfl .nil)
  · rw [Text.trim, hstrip]

/-- **What a leaf names in an item has the path of the item in front of it.** -/
theorem Context.Leading.leadsBack {d : Context α} (h : d.Leading engine limit) {t : Reason}
    {named : Path.Program} (hitem : t.item = d.itemPath)
    (hnamed : Path.Program.compile engine t.operand limit = .ok named)
    (hsource : named.source = t.operand)
    (hrelative : d.entered ≠ [] → t.operand ≠ "." → named.Relative) :
    t.LeadsBack engine limit d.query d.root d.current := by
  rw [Reason.LeadsBack, Reason.path, hitem]
  obtain hnil | ⟨hleads, hbracket⟩ := h
  · rw [itemPath_outside hnil, joinPath_empty_left isEmptyPath_empty, current_outside hnil]
    cases hempty : isEmptyPath t.operand with
    | true => exact .inl ⟨plainPath_of_empty hempty, eq_dot_of_compile hnamed hempty, rfl⟩
    | false =>
      rw [plainPath_of_path hempty]
      exact .inr ⟨named, named, hnamed, hnamed, rfl⟩
  · have hplain : isEmptyPath d.itemPath = false := isEmptyPath_of_bracket hbracket
    refine .inr ?_
    cases hempty : isEmptyPath t.operand with
    | true =>
      have hdot : t.operand = "." := eq_dot_of_compile hnamed hempty
      obtain ⟨q, hq, -, heval⟩ := hleads.leads
      rw [joinPath_empty_right hempty, plainPath_of_path hplain, hdot]
      exact ⟨_, q, Path.compile_dot, hq, heval⟩
    | false =>
      have hends : d.itemPath.toList.getLast? ≠ some '.' := by
        rw [hbracket]
        decide
      have hdot : t.operand ≠ "." := by
        intro hdot
        rw [hdot] at hempty
        cases hempty
      have hwhole := toList_joinPath hplain hempty
      rw [← hsource] at hwhole ⊢
      obtain ⟨-, q, hq, -, heval⟩ :=
        hleads.behind hends hnamed (hrelative (entered_ne_nil hbracket) hdot) hwhole
      exact ⟨named, q, hsource ▸ hnamed, hq, heval⟩

/-! ### The items of an array -/

namespace Condition

variable {c : Context α} {field : Path.Program}

theorem toList_dropEnd (s : String) (n : Nat) :
    (s.dropEnd n).toString.toList = s.toList.take (s.toList.length - n) := by
  rw [← String.dropEnd_toSlice]
  show (s.toSlice.dropEnd n).copy.toList = _
  rw [String.Slice.toList_copy_dropEnd, String.copy_toSlice]

/-- The path of the items is that of their field, or has a wildcard less. -/
theorem itemsPath_cases (field : Path.Program) : itemsPath field = field.source ∨
    field.source.toList = (itemsPath field).toList ++ ['[', '*', ']'] := by
  unfold itemsPath
  split
  · rename_i hends
    rw [String.endsWith_eq_endsWith_toSlice, String.Slice.endsWith_string_iff,
      String.copy_toSlice] at hends
    obtain ⟨front, hfront⟩ := hends
    refine .inr ?_
    have hlength : field.source.toList.length - 3 = front.length := by
      rw [← hfront, List.length_append]
      rfl
    rw [toList_dropEnd, hlength, ← hfront, List.take_left]
    rfl
  · exact .inl rfl

/-- Where the path of the items leads to an array, the items are those of the array. -/
theorem itemsOf_array {v : α} (hfield : field.IsCompiled engine limit)
    (hleads : Path.Leads engine limit c.query c.current (itemsPath field) v)
    (harray : View.isArray v = true) : itemsOf field c = View.items v := by
  obtain ⟨path, hpath⟩ := hfield
  obtain ⟨q, hq, -, -, hsequence, heval⟩ := Path.compile_source hpath c.query c.current
  obtain hplain | hwild := itemsPath_cases field
  · obtain ⟨p, hp, hsingle, hscalar⟩ := hleads.leads
    rw [hplain] at hp
    cases hp.symm.trans hq
    have hselect : field.select c.query c.current = [v] := by
      rw [Path.Program.select, ← heval, hscalar]
      rfl
    rw [itemsOf, hselect]
    simp [← hsequence, hsingle, harray]
  · have hmore : Path.Spells .path [.indexWild] ['[', '*', ']'] [] :=
      .selector (.bracket (.wild (Path.padded_self rfl))) .nil
    have hback : Path.compileSegments ⟨field.source, engine, limit⟩ 1 [.indexWild] =
        .ok [.indexWild] :=
      Path.compileSegments_segments (.cons rfl .nil)
    obtain ⟨-, q', hq', hmany, hresolve⟩ := hleads.goesOn hmore
      (.inl ⟨'[', List.mem_singleton_self _, rfl⟩) (Path.last_bracket rfl) hwild hback
    cases hq'.symm.trans hq
    have hchildren : View.children v = View.items v := by
      rw [View.isArray, beq_iff_eq] at harray
      rw [View.children, View.isObject, harray]
      rfl
    have hselect : field.select c.query c.current = View.items v := by
      rw [Path.Program.select, ← heval, ← Path.Program.select, Path.select_eq_reach,
        ← Path.values_resolve, hresolve, Path.values_walk, ← hchildren]
      simp [Path.reach, Path.Segment.step]
    rw [itemsOf, hselect]
    rw [hsequence] at hmany
    split
    · rename_i only honly
      rw [hmany]
      exact honly.symm
    · rfl

end Condition

/-- Indexes behind the path of the items lead to the items: the path leads to an array, and within
items it is a relative one. An array has no more items than there are indexes. -/
structure Context.Indexes (engine : Engine) (limit : Nat) (c : Context α) (field : Path.Program) :
    Prop where
  array : ∃ v, Path.Leads engine limit c.query c.current (Condition.itemsPath field) v ∧
    View.isArray v = true ∧ (View.items v).length ≤ 0x8000000000000000
  relative : c.entered ≠ [] → ∃ p,
    Path.Program.compile engine (Condition.itemsPath field) limit = .ok p ∧ p.Relative

theorem Context.Indexes.leading {c : Context α} {field : Path.Program} {i : Nat} {item : α}
    (h : c.Indexes engine limit field) (hfield : field.IsCompiled engine limit)
    (hc : c.Leading engine limit)
    (hitem : (Condition.itemsOf field c)[i]? = some item) :
    (c.enter item s!"{Condition.itemsPath field}[{i}]").Leading engine limit := by
  obtain ⟨v, hleads, harray, hlength⟩ := h.array
  rw [Condition.itemsOf_array hfield hleads harray] at hitem
  obtain ⟨hlt, -⟩ := List.getElem?_eq_some_iff.1 hitem
  have hi : Text.fitsInt64 i = true := by
    rw [Text.fitsInt64, Bool.and_eq_true, decide_eq_true_iff, decide_eq_true_iff]
    omega
  exact hc.enter hleads h.relative hitem hi

namespace Condition

/-- Wherever the condition asks for items, indexes lead to them, and the fields that it asks for
within items are relative, or the item itself. Nothing is asked for where no items are. -/
inductive Addressed (engine : Engine) (limit : Nat) : Condition → Context α → Prop where
  | leaf {path : String} {l : Leaf} {c : Context α} :
      (c.entered ≠ [] → ∀ field ∈ l.field?, field.source ≠ "." → field.Relative) →
      Addressed engine limit (.leaf path l) c
  | group {path : String} {k : Combinator} {children : List Condition} {c : Context α} :
      (∀ child ∈ children, Addressed engine limit child c) →
      Addressed engine limit (.group path k children) c
  | forEach {path : String} {k : Combinator} {children : List Condition} {field : Path.Program}
      {w : Option Condition} {q : Option Quantifier} {c : Context α} :
      (itemsOf field c ≠ [] → c.Indexes engine limit field) →
      (∀ (i : Nat) (item : α), (itemsOf field c)[i]? = some item → ∀ child ∈ children,
        Addressed engine limit child (c.enter item s!"{itemsPath field}[{i}]")) →
      (∀ (i : Nat) (item : α), (itemsOf field c)[i]? = some item → ∀ v ∈ w,
        Addressed engine limit v (c.enter item s!"{itemsPath field}[{i}]")) →
      Addressed engine limit (.forEach path k children field w q) c

/-- What a condition comes to ask is asked where the path of the innermost item leads. -/
theorem Asks.leading {cond : Condition} {c d : Context α} {l : Leaf} (h : cond.Asks c l d)
    (hcompiled : cond.Compiled engine limit) (haddressed : cond.Addressed engine limit c)
    (hc : c.Leading engine limit) : d.Leading engine limit ∧ d.root = c.root ∧ d.query = c.query ∧
      (∀ field ∈ l.field?, field.IsCompiled engine limit) ∧
      (d.entered ≠ [] → ∀ field ∈ l.field?, field.source ≠ "." → field.Relative) := by
  induction h with
  | leaf =>
    cases hcompiled with
    | leaf hfields =>
      cases haddressed with
      | leaf hrelative => exact ⟨hc, rfl, rfl, hfields, hrelative⟩
  | group hchild _ ih =>
    cases hcompiled with
    | group hchildren =>
      cases haddressed with
      | group hall => exact ih (hchildren _ hchild) (hall _ hchild) hc
  | item hchild hitem _ ih =>
    cases hcompiled with
    | forEach hfield hchildren _ =>
      cases haddressed with
      | forEach hindexes hall _ =>
        have hindexed := hindexes (List.ne_nil_of_mem (List.mem_of_getElem? hitem))
        exact ih (hchildren _ hchild) (hall _ _ hitem _ hchild)
          (hindexed.leading hfield hc hitem)
  | filter hitem _ ih =>
    cases hcompiled with
    | forEach hfield _ hfilter =>
      cases haddressed with
      | forEach hindexes _ hall =>
        have hindexed := hindexes (List.ne_nil_of_mem (List.mem_of_getElem? hitem))
        exact ih (hfilter _ rfl) (hall _ _ hitem _ rfl) (hindexed.leading hfield hc hitem)

end Condition

theorem Leaf.Gives.leadsBack {l : Leaf} {d : Context α} {t : Reason} (h : l.Gives d t)
    (hpath : t.origin = .path) (hd : d.Leading engine limit)
    (hcompiled : ∀ field ∈ l.field?, field.IsCompiled engine limit)
    (hrelative : d.entered ≠ [] → ∀ field ∈ l.field?, field.source ≠ "." → field.Relative) :
    t.LeadsBack engine limit d.query d.root d.current := by
  obtain hschema | ⟨field, hfield, hsource⟩ := h.names hpath
  · have hplain : Path.isPlainName t.operand = true := by
      rw [hschema]
      decide +kernel
    exact hd.leadsBack h.2.2.1 (Path.compile_name hplain engine limit) rfl fun _ _ =>
      Path.relative_name hplain _
  · obtain ⟨path, hcompile⟩ := hcompiled field hfield
    obtain ⟨q, hq, hsame, htokens, -⟩ := Path.compile_source hcompile d.query d.current
    rw [hsource] at hq hsame
    refine hd.leadsBack h.2.2.1 hq hsame fun hinside hdot => ?_
    obtain ⟨hrootless, hunmarked⟩ := hrelative hinside field hfield (hsource ▸ hdot)
    refine ⟨htokens ▸ hrootless, ?_⟩
    rw [hsame, ← hsource]
    exact hunmarked

/-- **The path of a reason leads back to what was tested.** Of a condition that was built, each
reason about a path is that of a leaf in one of the items that were entered. From the target its path
leads to what the field that it names leads to in that item: it is a path, which is found if the
field is, and selects the same. Only a lone dot, where it is the target that was asked, has an empty
path. Where no items are entered, nothing has to be addressed. -/
theorem reasons_lead_back {b : Builder} {document : Value} {cond : Condition}
    (hbuild : b.build document = .ok cond) (name : String) (c : Context α) (htarget : c.entered = [])
    (hnew : c.reasons = []) (haddressed : cond.Addressed b.engine b.regexSizeLimit c) :
    ∀ t ∈ ((⟨name, cond⟩ : Selector).evaluateIn c).1.reasons, t.origin = .path →
      (∃ l d, cond.Asks c l d ∧ l.Gives d t) ∧
      ∀ l d, cond.Asks c l d → l.Gives d t →
        t.LeadsBack b.engine b.regexSizeLimit c.query c.root d.current := by
  intro t ht hpath
  obtain ⟨new, hadds, hgives⟩ := cond.logs_evaluate c c [] (.refl c)
  have hmem : t ∈ new := by
    have hreasons := hadds.reasons
    rw [hnew, List.nil_append] at hreasons
    rw [← hreasons]
    have hreport : ((⟨name, cond⟩ : Selector).evaluateIn c).1.reasons =
        if Outcome.ofAnswer (cond.evaluate.outcome c).1 = .isMatch then []
        else (cond.evaluate.outcome c).2.reasons := rfl
    rw [hreport] at ht
    split at ht
    · cases ht
    · exact ht
  refine ⟨hgives t hmem, fun l d hasks hgive => ?_⟩
  obtain ⟨hd, hroot, hquery, hcompiled, hrelative⟩ :=
    hasks.leading (b.compiled_condition hbuild) haddressed (.inl htarget)
  have hback := hgive.leadsBack hpath hd hcompiled hrelative
  rwa [hroot, hquery] at hback

/-! ### Items that all have a name -/

section Named

/-- The document of a condition: all items have a name. -/
def namedItemsDocument : Value :=
  .object [("allOf", .array [.object [("field", .text "name"), ("hasValue", .bool true)]]),
    ("field", .text "items")]

def nameLeaf : Leaf :=
  ⟨.hasValue true, some (.field (.mk "name" [.member "name" false] [.member "name" false])),
    ⟨false, false, false, false, false, false⟩⟩

def itemsField : Path.Program := .mk "items" [.member "items" false] [.member "items" false]

/-- The condition of the document. -/
def namedItems : Condition :=
  .forEach ".allOf" .allOf [.leaf ".allOf[0].hasValue" nameLeaf] itemsField none none

theorem compile_nameField (engine : Engine) (limit : Nat) :
    Path.Program.compile engine "name" limit =
    .ok (.mk "name" [.member "name" false] [.member "name" false]) :=
  Path.compile_name (by decide +kernel) engine limit

theorem compile_itemsField (engine : Engine) (limit : Nat) :
    Path.Program.compile engine "items" limit = .ok itemsField :=
  Path.compile_name (by decide +kernel) engine limit

theorem compile_firstName (engine : Engine) (limit : Nat) :
    Path.Program.compile engine "items[0].name" limit =
    .ok (.mk "items[0].name" [.member "items" false, .index 0, .member "name" false]
      [.member "items" false, .index 0, .member "name" false]) := by
  let behind : List Path.Token := [.index 0, .member "name" false]
  have hshape : Path.Shaped .selectors behind := .selector rfl (.selector rfl .nil)
  have hbehind : Path.Spells .path behind (Path.chars behind ++ []) [] :=
    hshape.spells (by decide +kernel) fun _ hc => nomatch hc
  have hitems : Path.SpellsName "items" ("items".toList ++ (Path.chars behind ++ []))
      (Path.chars behind ++ []) :=
    Path.spellsName_display (by decide +kernel) (Path.ends_cons (by decide +kernel))
  have hstrip : Text.strip "items[0].name".toList =
      "items".toList ++ (Path.chars behind ++ []) := by decide +kernel
  refine Path.compile_eq_ok.2 ⟨.member "items" false :: behind, _, ?_,
    Path.compileSegments_segments (.cons rfl (.cons rfl (.cons rfl .nil))), ?_⟩
  · rw [Path.Spelled, hstrip]
    exact .name hitems hbehind
  · have htrim : Text.trim "items[0].name" = "items[0].name" := by decide +kernel
    rw [htrim]

theorem build_namedItems (engine : Engine) :
    (Builder.of engine {}).build namedItemsDocument = .ok namedItems := by
  let b := Builder.of engine {}
  have hleaf : b.leaf ".allOf[0]" [("field", .text "name"), ("hasValue", .bool true)] =
      .ok (.leaf ".allOf[0].hasValue" nameLeaf) := by
    refine b.leaf_eq_ok.2 ⟨.hasValue, "hasValue", .bool true, _, _, .hasValue true, rfl, rfl, ?_,
      fun _ => ⟨_, rfl⟩, rfl, rfl⟩
    exact Builder.subject_of_field rfl (Builder.field_of_compile (compile_nameField _ _))
  have hchildren : Builder.readAll (b.condition 99) ".allOf" 0
      [.object [("field", .text "name"), ("hasValue", .bool true)]] =
        .ok [.leaf ".allOf[0].hasValue" nameLeaf] := by
    show (do
      let c ← b.condition 99 ".allOf[0]" _
      let cs ← Builder.readAll _ _ 1 []
      .ok (c :: cs)) = _
    rw [b.condition_eq_ok.2 ⟨_, rfl, .inl ⟨rfl, hleaf⟩⟩]
    rfl
  exact b.condition_eq_ok.2 ⟨_, rfl, .inr ⟨.allOf, _, _, _, rfl, rfl, hchildren,
    .forEach rfl (Builder.field_of_compile (compile_itemsField _ _)) (.none rfl) rfl⟩⟩

/-- The items of an array are found again under the paths of the reasons. -/
theorem reasons_lead_back_array :
    let b := Builder.of Regex.engine {}
    let items : Value := .array [.object [("name", .text "a")], .object [("name", .text "")]]
    let c := Context.of Regex.engine (Value.object [("items", items)]) {} ⟨0, 0⟩
    let report := ((⟨"", namedItems⟩ : Selector).evaluateIn c).1
    b.build namedItemsDocument = .ok namedItems ∧ namedItems.Addressed b.engine b.regexSizeLimit c ∧
      report.reasons.map Reason.path = ["items[1].name"] ∧
      ∀ t ∈ report.reasons, t.origin = .path →
        (∃ l d, namedItems.Asks c l d ∧ l.Gives d t) ∧
        ∀ l d, namedItems.Asks c l d → l.Gives d t →
          t.LeadsBack b.engine b.regexSizeLimit c.query c.root d.current := by
  intro b items c report
  have hpath : Condition.itemsPath itemsField = "items" := by decide +kernel
  have hindexes : c.Indexes b.engine b.regexSizeLimit itemsField := by
    refine ⟨⟨items, ?_, rfl, by decide⟩, fun hinside => absurd rfl hinside⟩
    rw [hpath]
    exact ⟨by decide +kernel, itemsField, compile_itemsField _ _, rfl, rfl⟩
  have haddressed : namedItems.Addressed b.engine b.regexSizeLimit c := by
    refine .forEach (fun _ => hindexes) (fun i item _ child hchild => ?_)
      fun _ _ _ _ hw => nomatch hw
    obtain rfl := List.mem_singleton.1 hchild
    refine .leaf fun _ field hfield _ => ?_
    cases hfield
    exact Path.relative_name (by decide +kernel) _
  exact ⟨build_namedItems _, haddressed, by decide +kernel,
    reasons_lead_back (build_namedItems _) "" c rfl rfl haddressed⟩

/-- An item that is no item of an array has an index in its path all the same, and nothing is found
there. -/
theorem reasons_lead_astray :
    let b := Builder.of Regex.engine {}
    let item : Value := .object [("name", .text "")]
    let c := Context.of Regex.engine (Value.object [("items", item)]) {} ⟨0, 0⟩
    let report := ((⟨"", namedItems⟩ : Selector).evaluateIn c).1
    b.build namedItemsDocument = .ok namedItems ∧
      ∃ t ∈ report.reasons, t.origin = .path ∧ t.path = "items[0].name" ∧
        ∀ l d, namedItems.Asks c l d →
          ¬ t.LeadsBack b.engine b.regexSizeLimit c.query c.root d.current := by
  intro b item c report
  let t : Reason := ⟨.path, "name", "items[0]", "", "Is set to ''."⟩
  have ht : report.reasons = [t] := by decide +kernel
  refine ⟨build_namedItems _, t, ht ▸ List.mem_singleton_self t, rfl, by decide +kernel, ?_⟩
  intro l d hasks hback
  have hcurrent : d.current = item := by
    cases hasks with
    | @item _ _ _ _ _ _ child i entered _ _ _ hchild hitem hasks =>
      obtain rfl := List.mem_singleton.1 hchild
      cases hasks
      have honly : entered ∈ [item] := List.mem_of_getElem? hitem
      exact List.mem_singleton.1 honly
  obtain ⟨hempty, -⟩ | ⟨named, q, hnamed, hq, heval⟩ := hback
  · exact absurd hempty (by decide +kernel)
  · have hpath : t.path = "items[0].name" := by decide +kernel
    rw [hcurrent] at heval
    rw [hpath] at hq
    cases hnamed.symm.trans (compile_nameField _ _)
    cases hq.symm.trans (compile_firstName _ _)
    cases heval

end Named

end Sift
