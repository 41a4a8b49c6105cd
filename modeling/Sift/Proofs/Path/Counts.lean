import Sift.Proofs.Path.Enclosure
import Sift.Proofs.Path.Tokenize

/-! The groups that a scan counts.

A scan counts the groups that are open in the innermost filter, and keeps the counts of the filters
around it. At every step each count is the number that the tokens of its level leave open
(`Counted`), so it is never lowered below zero. The step to look at is the end of a filter, which
takes a group off its predicate: what is left of the predicate closes all that it opens. -/
namespace Sift.Path

namespace State

variable {s u : State}

/-- Each count is that of the groups that the tokens of its level leave open. -/
def Counted (s : State) : Prop :=
  Enclosure.group.depth? 0 s.tokens = some s.groups ∧
    ∀ outer ∈ s.filters, Enclosure.group.depth? 0 outer.tokens = some outer.groups

/-! ### The end of a filter -/

/-- Tokens that close a group only as the last of them close, up to there, all that they open. -/
theorem depth?_of_spans {depth : Nat} {ts : List Token} (h : spans (depth + 1) ts = true) :
    Enclosure.group.depth? depth ts.dropLast = some 0 := by
  induction ts generalizing depth with
  | nil => cases h
  | cons t ts ih =>
    have hcons {n : Nat} (hn : spans (n + 1) ts = true)
        (hmove : Enclosure.group.move? depth t = some n) :
        Enclosure.group.depth? depth (t :: ts).dropLast = some 0 := by
      have hne : ts ≠ [] := by
        rintro rfl
        cases hn
      rw [List.dropLast_cons_of_ne_nil hne, Enclosure.depth?_cons, hmove]
      exact ih hn
    by_cases hopen : t = .startGroup
    · subst hopen
      exact hcons h rfl
    · by_cases hclose : t = .endGroup
      · subst hclose
        cases depth with
        | zero =>
          have hnil : ts = [] := List.isEmpty_iff.1 h
          rw [hnil]
          rfl
        | succ depth => exact hcons h rfl
      · rw [spans_cons hopen hclose] at h
        refine hcons h ?_
        unfold Enclosure.move?
        rw [if_neg (show t ≠ Enclosure.group.opening from hopen),
          if_neg (show t ≠ Enclosure.group.closing from hclose)]

theorem depth?_unwrap {ts : List Token} (h : Enclosure.group.depth? 0 ts = some 0) :
    Enclosure.group.depth? 0 (unwrap ts) = some 0 := by
  unfold unwrap
  split
  · split
    · rename_i hspans
      exact depth?_of_spans hspans
    · exact h
  · exact h

/-! ### Every step -/

theorem Counted.emit {t : Token} (h : s.Counted) (hopen : t ≠ .startGroup) (hclose : t ≠ .endGroup)
    (rest : List Char) : (s.emit t rest).Counted := by
  refine ⟨Enclosure.depth?_trans h.1 ?_, h.2⟩
  rw [Enclosure.depth?_other hopen hclose]
  rfl

theorem Takes.counted (htake : s.Takes u) (h : s.Counted) : u.Counted := by
  cases htake with
  | dot | lone | leave => exact h
  | selector _ ht => exact h.emit (ne_of_kind ht.isSelector rfl) (ne_of_kind ht.isSelector rfl) _
  | enter => exact ⟨rfl, List.forall_mem_cons.2 h⟩
  | word _ _ _ ht _ =>
    exact h.emit (ne_of_word ht.isWord rfl rfl) (ne_of_word ht.isWord rfl rfl) _
  | @reference _ _ rest _ _ _ ht =>
    exact h.emit (ne_of_kind ht rfl) (ne_of_kind ht rfl) rest
  | openGroup => exact ⟨Enclosure.depth?_trans h.1 rfl, h.2⟩
  | closeGroup _ _ _ _ hgroups =>
    have hcount := h.1
    rw [hgroups] at hcount
    exact ⟨Enclosure.depth?_trans hcount rfl, h.2⟩
  | @exit outer filters _ _ _ hfilters _ _ hgroups =>
    have hcounts := h.2
    rw [hfilters, List.forall_mem_cons] at hcounts
    have hcount := h.1
    rw [hgroups] at hcount
    refine ⟨?_, hcounts.2⟩
    have hend {n : Nat} : Enclosure.group.depth? n [.endFilter] = some n := rfl
    have hstart {n : Nat} : Enclosure.group.depth? n [.startFilter] = some n := rfl
    have hpredicate :
        Enclosure.group.depth? outer.groups (unwrap s.tokens) = some outer.groups := by
      have hmore := Enclosure.depth?_add (depth?_unwrap hcount) outer.groups
      rwa [Nat.zero_add] at hmore
    exact Enclosure.depth?_trans
      (Enclosure.depth?_trans (Enclosure.depth?_trans hcounts.1 hstart) hpredicate) hend

theorem start_counted {text : List Char} (h : start text = .ok s) : s.Counted := by
  have htop {tokens : List Token} {rest : List Char}
      (htokens : Enclosure.group.depth? 0 tokens = some 0) : (top tokens rest).Counted :=
    ⟨htokens, List.forall_mem_nil _⟩
  have hnamed {name : Except Fault (String × List Char)}
      (h : (name >>= fun r => .ok (top [.member r.1 false] r.2) : Except Fault State) = .ok s) :
      s.Counted := by
    obtain ⟨r, -, hs⟩ := bind_eq_ok.1 h
    cases hs
    exact htop rfl
  unfold start at h
  simp only at h
  split at h
  · split at h
    · exact hnamed h
    · cases h
      exact htop rfl
  · cases h
    exact htop rfl
  · cases h
    exact htop rfl
  · split at h
    · exact hnamed h
    · cases h
      exact htop rfl
  · cases h
    exact htop rfl

/-- The states that a scan of the text goes through. -/
inductive Visits (text : List Char) : State → Prop where
  | start {first} : State.start text = .ok first → Visits text first
  | step {before next} : Visits text before → before.step = .ok next → Visits text next

/-- **Every scan counts its groups right, at every step.** -/
theorem Visits.counted {text : List Char} (h : Visits text s) : s.Counted := by
  induction h with
  | start h => exact start_counted h
  | step _ hstep ih => exact (step_eq_ok.1 hstep).counted ih

end State

end Sift.Path
