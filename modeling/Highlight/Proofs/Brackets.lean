import Mathlib.Combinatorics.Enumerative.DyckWord

/-! Brackets in a list: which of them are matched, and what stands behind each one that is not. -/
namespace Highlight

def EachBehind (Behind : List α → α → Prop) (xs : List α) : Prop :=
  ∀ front a back, xs = front ++ a :: back → Behind front a

namespace EachBehind

variable {Behind : List α → α → Prop} {xs : List α} {a : α}

theorem nil : EachBehind Behind [] := by
  intro front a back split
  exact absurd split.symm (List.append_ne_nil_of_right_ne_nil _ (List.cons_ne_nil _ _))

theorem concat (each : EachBehind Behind xs) (last : Behind xs a) :
    EachBehind Behind (xs ++ [a]) := by
  intro front b back split
  rcases List.eq_nil_or_concat back with rfl | ⟨back, c, rfl⟩
  · obtain ⟨rfl, same⟩ := List.append_inj' split rfl
    exact List.singleton_injective same ▸ last
  · rw [List.concat_eq_append, ← List.cons_append, ← List.append_assoc] at split
    exact each front b back (List.append_inj' split rfl).1

theorem of_append (each : EachBehind Behind (xs ++ ys)) : EachBehind Behind xs := by
  rintro front a back rfl
  exact each front a (back ++ ys) (List.append_assoc ..)

end EachBehind

/-- Every bracket is matched. Elements that are no brackets stand anywhere. -/
def Balanced (bracket? : α → Option DyckStep) (xs : List α) : Prop :=
  ∃ w : DyckWord, w.toList = xs.filterMap bracket?

/-- The opening brackets that no bracket has closed yet, before and after the element `x`. -/
def matchNext (bracket? : α → Option DyckStep) (opens : List α) (x : α) : List α :=
  match bracket? x with
  | some .U => x :: opens
  | some .D => opens.tail
  | none => opens

/-- The opening brackets that no bracket closes, innermost first. -/
def unmatched (bracket? : α → Option DyckStep) (xs : List α) : List α :=
  xs.foldl (matchNext bracket?) []

/-- A list cut at the brackets `opens`, innermost first: in front of them all stands a list of
`outer`, and behind each of them a list of `inner`. -/
inductive Layered (outer inner : List α → Prop) : List α → List α → Prop
  | bottom (whole : outer xs) : Layered outer inner [] xs
  | layer (front : Layered outer inner opens xs) (behind : inner ys) :
      Layered outer inner (a :: opens) (xs ++ a :: ys)

namespace Layered

variable {outer inner : List α → Prop} {opens xs ys : List α} {a : α}

/-- The innermost layer is extended. -/
theorem append (layered : Layered outer inner opens xs)
    (extendOuter : ∀ {zs}, outer zs → outer (zs ++ ys))
    (extendInner : opens ≠ [] → ∀ {zs}, inner zs → inner (zs ++ ys)) :
    Layered outer inner opens (xs ++ ys) := by
  cases layered with
  | bottom whole => exact .bottom (extendOuter whole)
  | layer front behind =>
    rw [List.append_assoc, List.cons_append]
    exact .layer front (extendInner (List.cons_ne_nil _ _) behind)

theorem push (empty : inner []) (layered : Layered outer inner opens xs) :
    Layered outer inner (a :: opens) (xs ++ [a]) :=
  .layer layered empty

end Layered

section

variable {bracket? : α → Option DyckStep} {opens xs ys : List α} {a x : α}

theorem unmatched_concat (xs : List α) (x : α) :
    unmatched bracket? (xs ++ [x]) = matchNext bracket? (unmatched bracket? xs) x := by
  simp [unmatched]

/-- What stands unmatched is an opening bracket of the list. -/
theorem mem_unmatched (member : a ∈ unmatched bracket? xs) :
    a ∈ xs ∧ bracket? a = some .U := by
  induction xs using List.reverseRecOn with
  | nil => contradiction
  | append_singleton xs x ih =>
    rw [unmatched_concat, matchNext] at member
    rw [List.mem_append, List.mem_singleton]
    split at member
    · next opening =>
      rcases List.mem_cons.mp member with rfl | member
      · exact ⟨.inr rfl, opening⟩
      · exact ⟨.inl (ih member).1, (ih member).2⟩
    · have inside := ih (List.mem_of_mem_tail member)
      exact ⟨.inl inside.1, inside.2⟩
    · exact ⟨.inl (ih member).1, (ih member).2⟩

/-- Brackets that were open are still open if no part of the list closes more brackets than it
opens. -/
theorem exists_foldl_matchNext
    (bounded : ∀ v, v <+: xs.filterMap bracket? → v.count .D ≤ v.count .U) (opens : List α) :
    ∃ inner, xs.foldl (matchNext bracket?) opens = inner ++ opens ∧
      inner.length + (xs.filterMap bracket?).count .D = (xs.filterMap bracket?).count .U := by
  induction xs using List.reverseRecOn with
  | nil => exact ⟨[], rfl, rfl⟩
  | append_singleton xs x ih =>
    rw [List.filterMap_append] at bounded ⊢
    obtain ⟨inner, folded, size⟩ := ih fun v part => bounded v (part.trans (List.prefix_append _ _))
    have whole := bounded _ (List.prefix_refl _)
    rw [List.foldl_append, folded]
    simp only [List.foldl_cons, List.foldl_nil, List.count_append] at whole ⊢
    unfold matchNext
    cases found : bracket? x with
    | none => exact ⟨inner, rfl, by simpa [found] using size⟩
    | some step =>
      cases step with
      | U => exact ⟨x :: inner, rfl, by simp [found]; omega⟩
      | D =>
        cases inner with
        | nil => simp [found] at whole size; omega
        | cons a inner => exact ⟨inner, rfl, by simp [found] at size ⊢; omega⟩

/-- A bracket is not closed by the first part of balanced brackets behind it. -/
theorem exists_unmatched (opening : bracket? a = some .U) (balanced : Balanced bracket? (xs ++ ys))
    (front : List α) :
    ∃ inner, unmatched bracket? (front ++ a :: xs) = inner ++ a :: unmatched bracket? front := by
  obtain ⟨w, brackets⟩ := balanced
  have bounded : ∀ v, v <+: xs.filterMap bracket? → v.count .D ≤ v.count .U := by
    intro v part
    have within : v <+: w.toList := by
      rw [brackets, List.filterMap_append]
      exact part.trans (List.prefix_append _ _)
    rw [List.prefix_iff_eq_take.mp within]
    exact w.count_D_le_count_U _
  obtain ⟨inner, folded, _⟩ := exists_foldl_matchNext bounded (a :: unmatched bracket? front)
  refine ⟨inner, ?_⟩
  rw [← folded, unmatched, List.foldl_append, List.foldl_cons, ← unmatched, matchNext, opening]

namespace Balanced

theorem nil : Balanced bracket? [] :=
  ⟨0, rfl⟩

theorem append (first : Balanced bracket? xs) (second : Balanced bracket? ys) :
    Balanced bracket? (xs ++ ys) := by
  obtain ⟨v, first⟩ := first
  obtain ⟨w, second⟩ := second
  refine ⟨v + w, ?_⟩
  rw [List.filterMap_append, ← first, ← second]
  rfl

theorem singleton (silent : bracket? x = none) : Balanced bracket? [x] := by
  refine ⟨0, ?_⟩
  rw [List.filterMap_cons_none silent]
  rfl

theorem wrap (inside : Balanced bracket? xs) (opening : bracket? a = some .U)
    (closing : bracket? x = some .D) : Balanced bracket? (a :: xs ++ [x]) := by
  obtain ⟨w, inside⟩ := inside
  refine ⟨w.nest, ?_⟩
  rw [List.filterMap_append, List.filterMap_cons_some opening, ← inside,
    List.filterMap_cons_some closing]
  rfl

end Balanced

namespace Layered

theorem skip (layered : Layered (Balanced bracket?) (Balanced bracket?) opens xs)
    (silent : bracket? x = none) :
    Layered (Balanced bracket?) (Balanced bracket?) opens (xs ++ [x]) :=
  layered.append (fun whole => whole.append (.singleton silent))
    (fun _ _ behind => behind.append (.singleton silent))

/-- The innermost open bracket is the one that `x` closes. -/
theorem close (layered : Layered (Balanced bracket?) (Balanced bracket?) (a :: opens) xs)
    (opening : bracket? a = some .U) (closing : bracket? x = some .D) :
    ∃ front between, xs = front ++ a :: between ∧ Balanced bracket? between ∧
      Layered (Balanced bracket?) (Balanced bracket?) opens (xs ++ [x]) := by
  cases layered with
  | @layer _ front between _ layered inside =>
    refine ⟨front, between, rfl, inside, ?_⟩
    have pair := inside.wrap opening closing
    rw [List.append_assoc, List.cons_append]
    exact layered.append (fun whole => whole.append pair) (fun _ _ behind => behind.append pair)

/-- As long as there is a bracket for each one that closes, the brackets that are open are the
unmatched ones. -/
theorem next (layered : Layered (Balanced bracket?) (Balanced bracket?) opens xs)
    (openings : ∀ a ∈ opens, bracket? a = some .U)
    (nonempty : bracket? x = some .D → opens ≠ []) :
    Layered (Balanced bracket?) (Balanced bracket?) (matchNext bracket? opens x) (xs ++ [x]) := by
  unfold matchNext
  split
  · exact layered.push .nil
  · next closing =>
    cases opens with
    | nil => exact absurd rfl (nonempty closing)
    | cons a opens =>
      obtain ⟨_, _, _, _, closed⟩ := layered.close (openings a List.mem_cons_self) closing
      exact closed
  · next silent => exact layered.skip silent

theorem balanced (layered : Layered (Balanced bracket?) (Balanced bracket?) [] xs) :
    Balanced bracket? xs := by
  cases layered with
  | bottom whole => exact whole

end Layered

end

end Highlight
