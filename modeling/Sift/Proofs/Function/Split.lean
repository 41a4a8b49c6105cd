import Mathlib.Data.List.Find
import Sift.Function.Compile
import Sift.Proofs.Text.AsciiCase
import Sift.Proofs.Text.Split
import Sift.Regex.Engine

/-! What the functions `split` and `replace` make of a text.

The parts that `split` gives have the text in them, but for the delimiters between them; and the
delimiters are those that stand there, and none is left (`splitText_restores`). Where the case of
letters counts, `replace` joins the same parts with the new text (`replace_joins_split`), so what
it puts in is not looked at again, whatever it is. -/
namespace Sift.Function

/-! ### Splitting -/

/-- The parts with the delimiters between them. -/
def weave (parts used : List String) : String :=
  String.ofList (Text.weave (parts.map String.toList) (used.map String.toList))

/-- The text `s` consists of `parts`, with the delimiters `used` between them. -/
structure SplitBy (delimiters : List String) (s : String) (parts used : List String) : Prop where
  count : parts.length = used.length + 1
  listed : ∀ d ∈ used, d ∈ delimiters
  whole : weave parts used = s
  /-- No delimiter is left in a part. -/
  clear : ∀ part ∈ parts, ∀ d ∈ delimiters, ¬ d.toList <:+: part.toList
  /-- Where it is used, a delimiter is the first of the list that the text goes on with. -/
  first : ∀ front back before d behind, parts = front ++ back → used = before ++ d :: behind →
    front.length = before.length + 1 →
    s = weave front before ++ (d ++ weave back behind) ∧
      delimiters.find? (fun e => e.toList.isPrefixOf (d ++ weave back behind).toList) = some d

variable {delimiters : List String} {s : String}

/-- The first delimiter at a place, as a text. -/
theorem find?_of_delimiterAt? (hne : ∀ d ∈ delimiters, d ≠ "") {d : String} {cs : List Char}
    (h : Text.delimiterAt? (delimiters.map String.toList) cs = some d.toList) :
    delimiters.find? (fun e => e.toList.isPrefixOf cs) = some d := by
  rw [Text.delimiterAt?, List.find?_map, Option.map_eq_some_iff] at h
  obtain ⟨e, he, hed⟩ := h
  obtain rfl := String.toList_inj.1 hed
  rw [← he]
  refine List.find?_congr fun d hd => ?_
  have hfull : d.toList.isEmpty = false := by
    rw [List.isEmpty_eq_false_iff]
    exact fun hnil => hne d hd (String.toList_eq_nil_iff.1 hnil)
  rw [Function.comp, hfull]
  rfl

theorem map_toList_ofList (parts : List (List Char)) :
    (parts.map String.ofList).map String.toList = parts := by
  rw [List.map_map]
  exact List.map_id'' (fun _ => String.toList_ofList) parts

theorem splitText_toList (delimiters : List String) (s : String) :
    (splitText delimiters s).map String.toList =
      Text.splitAny (delimiters.map String.toList) s.toList := by
  rw [splitText, map_toList_ofList]

/-- The parts of a text come from a cut of its characters. -/
theorem cut_splitText (delimiters : List String) (s : String) :
    ∃ used : List String, Text.Cut (delimiters.map String.toList) s.toList
      ((splitText delimiters s).map String.toList) (used.map String.toList) := by
  obtain ⟨used, h⟩ := Text.cut_splitAny (delimiters.map String.toList) s.toList
  refine ⟨used.map String.ofList, ?_⟩
  rw [splitText_toList, map_toList_ofList]
  exact h

theorem splitBy_of_cut (hne : ∀ d ∈ delimiters, d ≠ "") {parts used : List String}
    (h : Text.Cut (delimiters.map String.toList) s.toList (parts.map String.toList)
      (used.map String.toList)) : SplitBy delimiters s parts used := by
  constructor
  case count =>
    have hlength := h.length_eq
    rwa [List.length_map, List.length_map] at hlength
  case listed =>
    intro d hd
    have hmem := h.mem_of_mem (List.mem_map_of_mem hd)
    rwa [List.mem_map_of_injective fun _ _ => String.toList_inj.1] at hmem
  case whole => rw [weave, h.weave_eq, String.ofList_toList]
  case clear =>
    intro part hpart d hd
    refine h.not_infix (List.mem_map_of_mem hpart) (List.mem_map_of_mem hd) fun hnil => ?_
    exact hne d hd (String.toList_eq_nil_iff.1 hnil)
  case first =>
    intro front back before d behind hparts hused hlength
    obtain ⟨hs, hd⟩ := h.delimiterAt?_eq (d := d.toList)
      (by rw [hparts, List.map_append]) (by rw [hused, List.map_append, List.map_cons])
      (by rw [List.length_map, List.length_map, hlength])
    refine ⟨?_, find?_of_delimiterAt? hne ?_⟩
    · rw [← String.toList_inj, hs, String.toList_append, String.toList_append, weave, weave,
        String.toList_ofList, String.toList_ofList]
    · rw [String.toList_append, weave, String.toList_ofList]
      exact hd

/-- A single delimiter joins the parts again. -/
theorem intercalate_splitText (d s : String) : d.intercalate (splitText [d] s) = s := by
  obtain ⟨used, h⟩ := cut_splitText [d] s
  rw [← String.toList_inj, String.toList_intercalate]
  exact h.intercalate_eq

/-- Without delimiters there is nothing to split at. -/
theorem splitText_nil (s : String) : splitText [] s = [s] := by
  obtain ⟨used, h⟩ := cut_splitText [] s
  have hsplit := splitBy_of_cut (List.forall_mem_nil _) h
  obtain rfl : used = [] := List.eq_nil_iff_forall_not_mem.2 fun d hd =>
    List.not_mem_nil (hsplit.listed d hd)
  obtain ⟨part, hpart⟩ := List.length_eq_one_iff.1 hsplit.count
  rw [hpart] at hsplit ⊢
  have hwhole := hsplit.whole
  rw [weave, List.map_nil, Text.weave, List.map_singleton, List.flatten_singleton,
    String.ofList_toList] at hwhole
  rw [hwhole]

/-- **Splitting loses nothing, and leaves no delimiter.** -/
theorem splitText_restores (delimiters : List String) (hne : ∀ d ∈ delimiters, d ≠ "")
    (s : String) :
    (∃ used, SplitBy delimiters s (splitText delimiters s) used) ∧
      (∀ d, delimiters = [d] → d.intercalate (splitText delimiters s) = s) ∧
      (delimiters = [] → splitText delimiters s = [s]) := by
  refine ⟨?_, ?_, ?_⟩
  · obtain ⟨used, h⟩ := cut_splitText delimiters s
    exact ⟨used, splitBy_of_cut hne h⟩
  · rintro d rfl
    exact intercalate_splitText d s
  · rintro rfl
    exact splitText_nil s

theorem splitText_restores_overlapping :
    (∀ d ∈ ["ab", "b", "bc"], d ≠ "") ∧ splitText ["ab", "b", "bc"] "xabcbb" = ["x", "c", "", ""] ∧
      ∃ used, SplitBy ["ab", "b", "bc"] "xabcbb" ["x", "c", "", ""] used := by
  have hne : ∀ d ∈ ["ab", "b", "bc"], d ≠ "" := by decide
  have hparts : splitText ["ab", "b", "bc"] "xabcbb" = ["x", "c", "", ""] := by decide +kernel
  obtain ⟨hsplit, -⟩ := splitText_restores ["ab", "b", "bc"] hne "xabcbb"
  exact ⟨hne, hparts, hparts ▸ hsplit⟩

/-! ### Replacing -/

/-- What an engine owes to a text that is replaced: it is found where it stands as it is written
and nowhere else, and replaced from left to right, each time behind the last one. -/
def ReplacesWritten (engine : Engine) : Prop :=
  ∀ old replacer, old ≠ "" → engine.replacer? old true = some replacer → ∀ new s,
    replacer new s = String.ofList (Text.replaceAll true old.toList new.toList s.toList)

/-- Where the text is empty there is nothing to replace, and nothing to split. -/
theorem replaceText_eq {engine : Engine} (hengine : ReplacesWritten engine) {old : String}
    {replacer : (new text : String) → String} (hold : engine.replacer? old true = some replacer)
    (hne : old ≠ "") (new s : String) :
    replaceText old new replacer s = new.intercalate (splitText [old] s) := by
  obtain ⟨used, h⟩ := cut_splitText [old] s
  rw [List.map_singleton] at h
  have hreplaced : Text.replaceAll true old.toList new.toList s.toList = _ :=
    h.replaceAll_eq fun hnil => hne (String.toList_eq_nil_iff.1 hnil)
  have hwritten : replacer new s = new.intercalate (splitText [old] s) := by
    rw [hengine old replacer hne hold, hreplaced, ← String.toList_inj, String.toList_ofList,
      String.toList_intercalate]
  rw [replaceText]
  split
  · rename_i hempty
    rw [Bool.or_eq_true, String.isEmpty_iff, String.isEmpty_iff] at hempty
    obtain rfl := hempty.resolve_right hne
    rw [← hwritten, hengine old replacer hne hold, String.toList_empty, Text.replaceAll]
  · exact hwritten

theorem get?_cons {name key : String} (h : Text.sameAscii name key = true) (arg : Expr)
    (args : Arguments) : Arguments.get? ((name, arg) :: args) key = some arg := by
  rw [Arguments.get?, List.find?_cons_of_pos (by exact h), Option.map_some]

theorem replace_apply {engine : Engine} {args : Arguments} {old new : String} {arg : Expr}
    (hold : args.text? "oldstring" = some old) (hnew : args.text? "newstring" = some new)
    (hcase : args.bool? "casesensitive" = some true) (harg : args.get? "replace" = some arg) :
    Builtin.replace.apply? engine args =
      (engine.replacer? old true).map fun replacer => .replace arg old new replacer := by
  cases hmade : engine.replacer? old true <;>
    simp [ Builtin.apply?, Builtin.name, hold, hnew, hcase, harg, hmade]

theorem split_apply {engine : Engine} {args : Arguments} {d : String} {arg : Expr} (hne : d ≠ "")
    (hdelimiter : args.texts? "delimiter" = some [d]) (harg : args.get? "split" = some arg) :
    Builtin.split.apply? engine args = some (.split arg [d]) := by
  simp [ Builtin.apply?, Builtin.name, hdelimiter, harg, hne]

/-- **Where case counts, replacing is splitting at the old text and joining with the new one**, for
every old text that the engine takes. -/
theorem replace_joins_split {engine : Engine} (hengine : ReplacesWritten engine)
    {args args' : Arguments} {old new s : String} {arg arg' : Expr} {scope : Scope}
    (hold : args.text? "oldstring" = some old) (hne : old ≠ "")
    (htaken : (engine.replacer? old true).isSome = true)
    (hnew : args.text? "newstring" = some new) (hcase : args.bool? "casesensitive" = some true)
    (harg : args.get? "replace" = some arg)
    (hdelimiter : args'.texts? "delimiter" = some [old]) (harg' : args'.get? "split" = some arg')
    (hs : arg.eval scope = .text s) (hs' : arg'.eval scope = .text s) :
    ∃ (e e' : Expr) (parts : List String), Builtin.replace.apply? engine args = some e ∧
      Builtin.split.apply? engine args' = some e' ∧
      e'.eval scope = .array (parts.map .text) ∧ e.eval scope = .text (new.intercalate parts) ∧
        old.intercalate parts = s ∧ ∀ part ∈ parts, ¬ old.toList <:+: part.toList := by
  obtain ⟨replacer, hreplacer⟩ := Option.isSome_iff_exists.1 htaken
  have he : Builtin.replace.apply? engine args = some (.replace arg old new replacer) := by
    rw [replace_apply hold hnew hcase harg, hreplacer, Option.map_some]
  obtain ⟨used, h⟩ := cut_splitText [old] s
  refine ⟨_, _, splitText [old] s, he, split_apply hne hdelimiter harg', ?_, ?_,
    intercalate_splitText old s, fun part hpart => ?_⟩
  · rw [Expr.eval, hs']
    rfl
  · rw [Expr.eval, hs, onText, replaceText_eq hengine hreplacer hne]
  · exact (splitBy_of_cut (List.forall_mem_singleton.2 hne) h).clear part hpart old
      (List.mem_singleton_self old)

/-- An old text that overlaps itself, and a new one that would name a group in an expression. -/
theorem replace_joins_split_overlapping :
    let arg : Expr := .constant (.text "xaaaa.aa")
    let args : Arguments := [("Replace", arg), ("oldString", .constant (.text "aa")),
      ("newString", .constant (.text "$0aa")), ("caseSensitive", .constant (.text "true"))]
    let args' : Arguments := [("split", arg), ("delimiter", .constant (.text "aa"))]
    let scope : Scope := ⟨fun _ => none, fun _ => none, ⟨0, 0⟩⟩
    ReplacesWritten Regex.engine ∧ (Regex.engine.replacer? "aa" true).isSome = true ∧
      ∃ (e e' : Expr) (parts : List String), Builtin.replace.apply? Regex.engine args = some e ∧
        Builtin.split.apply? Regex.engine args' = some e' ∧
        e'.eval scope = .array (parts.map .text) ∧ e.eval scope = .text ("$0aa".intercalate parts) ∧
          "aa".intercalate parts = "xaaaa.aa" ∧ ∀ part ∈ parts, ¬ "aa".toList <:+: part.toList := by
  intro arg args args' scope
  have hengine : ReplacesWritten Regex.engine := by
    intro old replacer _ hold new s
    cases hold
    rfl
  have hold : args.text? "oldstring" = some "aa" := by decide
  have hnew : args.text? "newstring" = some "$0aa" := by decide
  have hcase : args.bool? "casesensitive" = some true := by decide
  have hdelimiter : args'.texts? "delimiter" = some ["aa"] := by decide
  have harg : args.get? "replace" = some arg := get?_cons (by decide +kernel) arg _
  have harg' : args'.get? "split" = some arg := get?_cons (Text.sameAscii_refl _) arg _
  exact ⟨hengine, rfl, replace_joins_split hengine hold (by decide) rfl hnew hcase harg hdelimiter
    harg' rfl rfl⟩

end Sift.Function
