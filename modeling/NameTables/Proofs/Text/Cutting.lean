import Mathlib.Data.List.Basic
import Mathlib.Tactic.SplitIfs
import NameTables.Text.Basic

/-!
# Cutting a list at its separators

`splitAt` is the library's `List.splitOnP`, so what is known of that function is known here: a
list is cut at a separator into the pieces of what stands on either side of it.  `splitEnded`
differs from it by an empty last piece only, which does not matter to whoever skips empty pieces.

## Main statements

* `splitAt_append_cons` — the pieces on the two sides of a separator.
* `takeWhile_append_cons_self`, `dropWhile_append_cons_self` — a list cut at its first separator.
* `takeWhile_append_of_head?`, `eq_false_of_mem_head?_dropWhile` — where a run of a class ends.
* `pieces_induction`, `cut_induction` — induction over the pieces of a list.
* `flatMap_splitAt` — two cuts, one inside the other, are one.
* `filterMap_splitEnded` — the empty last piece makes no difference to a reader that skips it.
-/

namespace NameTables

variable {α : Type} {sep : α → Bool}

theorem splitAt_eq_splitOnP (l : List α) : splitAt sep l = l.splitOnP sep := by
  induction l with
  | nil => rw [splitAt_nil, List.splitOnP_nil]
  | cons a l ih =>
    obtain ⟨p, ps, hps⟩ := List.exists_cons_of_ne_nil (List.splitOnP_ne_nil sep l)
    rw [splitAt_cons, List.splitOnP_cons_eq_if_modifyHead, ih, hps]
    rfl

theorem splitAt_ne_nil (sep : α → Bool) (l : List α) : splitAt sep l ≠ [] := by
  rw [splitAt_eq_splitOnP]
  exact List.splitOnP_ne_nil sep l

/-- Only the empty list is cut into one empty piece. -/
theorem splitAt_eq_singleton_nil_iff {l : List α} : splitAt sep l = [[]] ↔ l = [] := by
  cases l with
  | nil => exact iff_of_true rfl rfl
  | cons a l =>
    obtain ⟨p, ps, hps⟩ := List.exists_cons_of_ne_nil (splitAt_ne_nil sep l)
    rw [splitAt_cons, hps, consFirst_cons]
    split_ifs <;> simp

/-- Only what separates in the list itself matters. -/
theorem splitAt_congr {p q : α → Bool} {l : List α} (h : ∀ a ∈ l, p a = q a) :
    splitAt p l = splitAt q l :=
  List.foldr_ext _ _ _ fun a ha ps => by rw [h a ha]

/-- The pieces on the two sides of a separator are the pieces of the whole. -/
theorem splitAt_append_cons (l r : List α) {a : α} (ha : sep a = true) :
    splitAt sep (l ++ a :: r) = splitAt sep l ++ splitAt sep r := by
  simp only [splitAt_eq_splitOnP]
  exact List.splitOnP_append_cons l r ha

/-- A list without separators is one piece. -/
theorem splitAt_of_forall {l : List α} (h : ∀ a ∈ l, sep a = false) : splitAt sep l = [l] := by
  rw [splitAt_eq_splitOnP]
  exact List.splitOnP_eq_singleton h

theorem splitAt_of_not_mem [BEq α] [LawfulBEq α] {x : α} {l : List α} (h : x ∉ l) :
    splitAt (· == x) l = [l] :=
  splitAt_of_forall fun _ ha => beq_eq_false_iff_ne.mpr fun hax => h (hax ▸ ha)

theorem splitAt_append_cons_self [BEq α] [LawfulBEq α] (x : α) (l r : List α) :
    splitAt (· == x) (l ++ x :: r) = splitAt (· == x) l ++ splitAt (· == x) r :=
  splitAt_append_cons l r (beq_self_eq_true x)

/-- What is taken up to a separator is what stands before the first one. -/
theorem takeWhile_append_cons_self [BEq α] [LawfulBEq α] {x : α} {l : List α} (h : x ∉ l)
    (r : List α) : (l ++ x :: r).takeWhile (· != x) = l := by
  have hne : ∀ a ∈ l, (a != x) = true := fun a ha => bne_iff_ne.mpr fun hax => h (hax ▸ ha)
  rw [List.takeWhile_append_of_pos hne, List.takeWhile_cons_of_neg (by simp), List.append_nil]

/-- What is left begins with the first separator. -/
theorem dropWhile_append_cons_self [BEq α] [LawfulBEq α] {x : α} {l : List α} (h : x ∉ l)
    (r : List α) : (l ++ x :: r).dropWhile (· != x) = x :: r := by
  have hne : ∀ a ∈ l, (a != x) = true := fun a ha => bne_iff_ne.mpr fun hax => h (hax ▸ ha)
  rw [List.dropWhile_append_of_pos hne, List.dropWhile_cons_of_neg (by simp)]

/-- Padding in front of a list that does not begin with it is passed over. -/
theorem dropWhile_replicate_append [BEq α] [LawfulBEq α] {x : α} (n : Nat) {l : List α}
    (h : l.head? ≠ some x) : (List.replicate n x ++ l).dropWhile (· == x) = l := by
  rw [List.dropWhile_append_of_pos fun a ha => beq_iff_eq.mpr (List.eq_of_mem_replicate ha)]
  cases l with
  | nil => rfl
  | cons a l =>
    have ha : ¬ (a == x) = true := fun ha => h (congrArg some (beq_iff_eq.mp ha))
    exact List.dropWhile_cons_of_neg ha

/-- A run of a class ends where something else stands. -/
theorem takeWhile_append_of_head? {l r : List α} (hr : ∀ a ∈ r.head?, sep a = false) :
    (l ++ r).takeWhile sep = l.takeWhile sep := by
  have hnil : r.takeWhile sep = [] := by
    cases r with
    | nil => rfl
    | cons a r => exact List.takeWhile_cons_of_neg (by simp [hr a rfl])
  rw [List.takeWhile_append, hnil, List.append_nil]
  split_ifs with hall
  · exact ((List.takeWhile_prefix sep).eq_of_length hall).symm
  · rfl

/-- What follows a run of a class does not begin with an element of the class. -/
theorem eq_false_of_mem_head?_dropWhile {l : List α} :
    ∀ a ∈ (l.dropWhile sep).head?, sep a = false := by
  intro a ha
  have hnot := List.head?_dropWhile_not sep l
  rw [Option.mem_def.mp ha] at hnot
  exact hnot

/-- Only the empty text has no line. -/
theorem Text.lines_eq_nil_iff {s : Text} : s.lines = [] ↔ s = [] := by
  have hpieces : s = [] ↔ (pieces (· == '\n') s).reverse = [[]] := by
    rw [List.reverse_eq_iff, List.reverse_singleton, splitAt_eq_singleton_nil_iff]
  rw [hpieces, lines]
  split
  · next hnil => exact absurd (List.reverse_eq_nil_iff.mp hnil) (splitAt_ne_nil _ s)
  · next last ended hcons =>
    rw [hcons]
    simp [and_comm]

/-- What follows a beginning that was put in front. -/
@[simp] theorem Text.dropLead?_append (lead s : Text) : dropLead? lead (lead ++ s) = some s :=
  dropLead?_eq_some_iff.mpr rfl

/-- **Induction over the pieces of a list**: it is one piece, or a piece, a separator and a list
of which the statement is known. -/
theorem pieces_induction (sep : α → Bool) {motive : List α → Prop}
    (piece : ∀ l, (∀ a ∈ l, sep a = false) → motive l)
    (cut : ∀ l a r, (∀ b ∈ l, sep b = false) → sep a = true → motive r → motive (l ++ a :: r))
    (l : List α) : motive l := by
  -- the statement with the beginning of the unfinished piece in front
  have key : ∀ (r front : List α), (∀ a ∈ front, sep a = false) → motive (front ++ r) := by
    intro r
    induction r with
    | nil =>
      intro front hfront
      rw [List.append_nil]
      exact piece front hfront
    | cons a r ih =>
      intro front hfront
      cases ha : sep a with
      | true => exact cut front a r hfront ha (ih [] fun _ hb => absurd hb List.not_mem_nil)
      | false =>
        rw [List.append_cons]
        refine ih (front ++ [a]) fun b hb => ?_
        rcases List.mem_append.mp hb with hb | hb
        · exact hfront b hb
        · rw [List.mem_singleton.mp hb, ha]
  exact key l [] fun _ ha => absurd ha List.not_mem_nil

/-- Induction over the pieces between the occurrences of one element. -/
theorem cut_induction [DecidableEq α] (x : α) {motive : List α → Prop}
    (piece : ∀ l, x ∉ l → motive l)
    (cut : ∀ l r, x ∉ l → motive r → motive (l ++ x :: r)) (l : List α) : motive l := by
  have hnot : ∀ l : List α, (∀ a ∈ l, decide (a = x) = false) → x ∉ l := fun l hl hx =>
    of_decide_eq_false (hl x hx) rfl
  induction l using pieces_induction (fun a => decide (a = x)) with
  | piece l hl => exact piece l (hnot l hl)
  | cut l a r hl ha ih =>
    obtain rfl := of_decide_eq_true ha
    exact cut l r (hnot l hl) ih

/-- **Two cuts, one inside the other, are one cut** at the elements of either class. -/
theorem flatMap_splitAt (p q : α → Bool) (l : List α) :
    (splitAt p l).flatMap (splitAt q) = splitAt (fun a => p a || q a) l := by
  have hpiece : ∀ l : List α, (∀ a ∈ l, p a = false) →
      (splitAt p l).flatMap (splitAt q) = splitAt (fun a => p a || q a) l := by
    intro l hl
    rw [splitAt_of_forall hl, List.flatMap_singleton]
    exact splitAt_congr fun a ha => by rw [hl a ha, Bool.false_or]
  induction l using pieces_induction p with
  | piece l hl => exact hpiece l hl
  | cut l a r hl ha ih =>
    rw [splitAt_append_cons l r ha, List.flatMap_append, hpiece l hl, ih, splitAt_append_cons]
    rw [ha, Bool.true_or]

/-- The pieces are those of `splitEnded` and perhaps an empty one. -/
theorem splitAt_eq_splitEnded_append (sep : α → Bool) (l : List α) :
    splitAt sep l = splitEnded sep l ∧ (splitAt sep l).getLast? ≠ some []
      ∨ splitAt sep l = splitEnded sep l ++ [[]] := by
  unfold splitEnded
  split
  · next ps h =>
    right
    rw [← List.reverse_reverse (splitAt sep l), h, List.reverse_cons]
  · next h =>
    left
    rw [List.reverse_reverse, ← List.head?_reverse]
    refine ⟨rfl, fun hlast => ?_⟩
    obtain ⟨ps, hps⟩ := List.head?_eq_some_iff.mp hlast
    exact h ps hps

/-- A reader that skips an empty piece reads the same from either list of pieces. -/
theorem filterMap_splitEnded {β : Type} {f : List α → Option β} (hf : f [] = none) (l : List α) :
    (splitEnded sep l).filterMap f = (splitAt sep l).filterMap f := by
  rcases splitAt_eq_splitEnded_append sep l with ⟨h, -⟩ | h
  · rw [h]
  · rw [h, List.filterMap_append, List.filterMap_cons_none hf, List.filterMap_nil, List.append_nil]

/-- Cutting with `g` after reading the pieces with `f` is cutting the image, as long as only an
empty piece has an empty image. -/
theorem map_splitEnded_of_map_splitAt {β : Type} {g : β → Bool} {f : List α → List β}
    {l : List α} {l' : List β} (h : (splitAt sep l).map f = splitAt g l')
    (hf : ∀ p, f p = [] ↔ p = []) : (splitEnded sep l).map f = splitEnded g l' := by
  rcases splitAt_eq_splitEnded_append sep l with ⟨hl, hlast⟩ | hl <;>
    rcases splitAt_eq_splitEnded_append g l' with ⟨hl', hlast'⟩ | hl'
  · rw [← hl, ← hl', h]
  · refine absurd ?_ hlast
    have hmap : ((splitAt sep l).map f).getLast? = some [] := by
      rw [h, hl', List.getLast?_concat]
    rw [List.getLast?_map, Option.map_eq_some_iff] at hmap
    obtain ⟨p, hp, hfp⟩ := hmap
    rw [hp, (hf p).mp hfp]
  · refine absurd ?_ hlast'
    rw [← h, hl, List.map_append, List.map_singleton, (hf []).mpr rfl, List.getLast?_concat]
  · have hmap := h
    rw [hl, hl', List.map_append, List.map_singleton, (hf []).mpr rfl] at hmap
    exact List.append_cancel_right hmap

end NameTables
