import Mathlib.Data.List.Forall2
import Mathlib.Data.List.Nodup
import NameTables.Document.Reading
import NameTables.Settings.Encode

/-!
# Harmless edits of a record

A record is decoded by what stands under the keys of its fields.  This is the same when its entries
are put in another order, when entries are put in that are no fields, and when a field is left out
that holds its default, as far as a default is taken for what is missing.

## Main definitions

* `Field` — a field of a record: its key, the values it may have, and whether it may be missing.
* `Layout` — the fields of a record, with the entries it is encoded as.
* `Layout.Edited` — what the edits make of these entries.

## Main statements

* `Layout.Edited.exists_single?` — after all edits, each field is found once, or is missing and may
  be.
* `Fields.exists_assign?` — what is then assigned to the declared fields.
-/

namespace NameTables

/-- A field of a record. -/
structure Field where
  /-- The key it stands under. -/
  key : String
  /-- The values that mean what the field holds. -/
  Holds : Tree → Prop
  /-- May the field be missing? -/
  MayMiss : Prop

namespace Field

/-- Is the field found as it may be: with a value that means what it holds, or missing? -/
def Admits (f : Field) : Option Tree → Prop
  | some v => f.Holds v
  | none => f.MayMiss

/-- Is the entry the field? -/
def EncodedAs (f : Field) (e : Text × Tree) : Prop := e.1 = f.key.toList ∧ f.Holds e.2

end Field

/-- The fields of a record and the entries it is encoded as, one for each field. -/
structure Layout where
  /-- The fields, in their declared order. -/
  fields : List Field
  /-- The entries. -/
  entries : List (Text × Tree)
  /-- The values that may stand under other keys. -/
  MayStand : Tree → Prop
  /-- The entries are the fields. -/
  encodes : List.Forall₂ Field.EncodedAs fields entries
  /-- No two fields have one key. -/
  nodup : (fields.map Field.key).Nodup

/-- What edits make of the entries of a record. -/
inductive Layout.Edited (l : Layout) : List (Text × Tree) → Prop
  /-- No edit. -/
  | unchanged : Edited l l.entries
  /-- The entries are put in another order. -/
  | permuted {entries entries' : List (Text × Tree)} (h : Edited l entries)
      (hperm : entries.Perm entries') : Edited l entries'
  /-- An entry that is no field is put in somewhere. -/
  | inserted {before after : List (Text × Tree)} {name : Text} {v : Tree}
      (h : Edited l (before ++ after)) (hname : name ∉ l.fields.map (·.key.toList))
      (hv : l.MayStand v) : Edited l (before ++ (name, v) :: after)
  /-- A field that may be missing is left out. -/
  | dropped {before after : List (Text × Tree)} {f : Field} {v : Tree}
      (h : Edited l (before ++ (f.key.toList, v) :: after)) (hf : f ∈ l.fields)
      (hmiss : f.MayMiss) : Edited l (before ++ after)
  /-- Inside the value of a field there are edits, which leave what it means. -/
  | inside {before after : List (Text × Tree)} {f : Field} {v v' : Tree}
      (h : Edited l (before ++ (f.key.toList, v) :: after)) (hf : f ∈ l.fields)
      (hv : f.Holds v') : Edited l (before ++ (f.key.toList, v') :: after)

/-- The record may be written as the tree: edits make the tree of its entries. -/
def Layout.WrittenAs (l : Layout) (v : Tree) : Prop :=
  ∃ entries, v = .object entries ∧ l.Edited entries

/-- A record may be written as what it is encoded as. -/
theorem Layout.writtenAs_object (l : Layout) : l.WrittenAs (.object l.entries) :=
  ⟨_, rfl, .unchanged⟩

/-! ### The values under a key -/

namespace Fields

variable {ν : Type} {key other : Text} {entries entries' before after : List (Text × ν)} {v : ν}

/-- The values under a key, in order. -/
def under (key : Text) (entries : List (Text × ν)) : List ν :=
  (entries.filter (·.1 == key)).map Prod.snd

theorem under_append : under key (before ++ after) = under key before ++ under key after := by
  rw [under, List.filter_append, List.map_append, under, under]

theorem under_cons_self : under key ((key, v) :: entries) = v :: under key entries := by
  rw [under, List.filter_cons_of_pos (by exact beq_self_eq_true key), List.map_cons, under]

theorem under_cons_of_ne (h : other ≠ key) :
    under key ((other, v) :: entries) = under key entries := by
  rw [under, List.filter_cons_of_neg (by simpa using h), under]

theorem under_insert_of_ne (h : other ≠ key) :
    under key (before ++ (other, v) :: after) = under key (before ++ after) := by
  rw [under_append, under_cons_of_ne h, ← under_append]

theorem under_eq_nil (h : ∀ e ∈ entries, e.1 ≠ key) : under key entries = [] := by
  rw [under, List.map_eq_nil_iff, List.filter_eq_nil_iff]
  exact fun e he hkey => h e he (beq_iff_eq.mp hkey)

theorem under_perm (key : Text) (h : entries.Perm entries') :
    (under key entries).Perm (under key entries') :=
  (h.filter _).map _

theorem under_filter_of_ne (h : key ≠ other) :
    under key (entries.filter (!·.1 == other)) = under key entries := by
  rw [under, List.filter_filter, under]
  refine congrArg (List.map Prod.snd) (List.filter_congr fun e _ => ?_)
  by_cases he : e.1 = key
  · simp [he, h]
  · simp [he]

/-- A value that is all that is found under its key has nothing of that key around it. -/
theorem under_around_eq_nil {x : Option ν}
    (h : under key (before ++ (key, v) :: after) = x.toList) :
    under key before = [] ∧ under key after = [] := by
  rw [under_append, under_cons_self] at h
  have hlength := congrArg List.length h
  have hx : x.toList.length ≤ 1 := by cases x <;> simp
  simp only [List.length_append, List.length_cons] at hlength
  constructor <;> exact List.eq_nil_of_length_eq_zero (by omega)

/-- What is found under a key is what stands there, unless that is more than one value. -/
theorem single?_eq_some_iff {x : Option ν} :
    single? key entries = some x ↔ under key entries = x.toList := by
  rw [single?, under]
  generalize entries.filter (·.1 == key) = found
  rcases found with _ | ⟨e, _ | ⟨e', rest⟩⟩ <;> cases x <;> simp

/-- When each field is found as it may be, so are the values assigned to the declared fields. -/
theorem exists_assign? {fields : List Field} {entries : List (Text × Tree)}
    (h : ∀ f ∈ fields, ∃ x, single? f.key.toList entries = some x ∧ f.Admits x) :
    ∃ xs, assign? (fields.map Field.key) (.named entries) = some xs
      ∧ List.Forall₂ Field.Admits fields xs := by
  rw [assign?]
  induction fields with
  | nil => exact ⟨[], rfl, .nil⟩
  | cons f fields ih =>
    obtain ⟨⟨x, hx, hadmits⟩, hrest⟩ := List.forall_mem_cons.mp h
    obtain ⟨xs, hxs, hall⟩ := ih hrest
    refine ⟨x :: xs, ?_, .cons hadmits hall⟩
    rw [List.map_cons, List.mapM_cons, hx, hxs]
    rfl

end Fields

/-! ### What edits preserve -/

section

open Fields

variable {fields : List Field} {entries : List (Text × Tree)} {l : Layout} {f g : Field}

theorem exists_field_of_encodes (h : List.Forall₂ Field.EncodedAs fields entries) :
    ∀ e ∈ entries, ∃ f ∈ fields, f.EncodedAs e := by
  induction h with
  | nil => nofun
  | @cons f e fields entries hf _ ih =>
    refine List.forall_mem_cons.mpr ⟨⟨f, List.mem_cons_self, hf⟩, fun e' he' => ?_⟩
    obtain ⟨g, hg, hge⟩ := ih e' he'
    exact ⟨g, List.mem_cons_of_mem _ hg, hge⟩

/-- As encoded, each field is found with its value. -/
theorem exists_under_of_encodes (hkeys : (fields.map Field.key).Nodup)
    (h : List.Forall₂ Field.EncodedAs fields entries) :
    ∀ f ∈ fields, ∃ v, under f.key.toList entries = [v] ∧ f.Holds v := by
  induction h with
  | nil => nofun
  | @cons g e fields entries hge hrest ih =>
    obtain ⟨key, v⟩ := e
    obtain ⟨rfl, hv⟩ : key = g.key.toList ∧ g.Holds v := hge
    rw [List.map_cons, List.nodup_cons, List.mem_map] at hkeys
    have hne : ∀ f ∈ fields, g.key.toList ≠ f.key.toList := fun f hf heq =>
      hkeys.1 ⟨f, hf, (String.toList_inj.mp heq).symm⟩
    intro f hf
    obtain rfl | hf := List.mem_cons.mp hf
    · -- what stands behind has the keys of the other fields
      have hothers : under f.key.toList entries = [] := under_eq_nil fun e he hkey => by
        obtain ⟨g, hg, hge⟩ := exists_field_of_encodes hrest e he
        exact hne g hg (hkey.symm.trans hge.1)
      exact ⟨v, by rw [under_cons_self, hothers], hv⟩
    · rw [under_cons_of_ne (hne f hf)]
      exact ih hkeys.2 f hf

namespace Layout

theorem toList_key_ne (hf : f ∈ l.fields) (hg : g ∈ l.fields) (hne : f ≠ g) :
    f.key.toList ≠ g.key.toList :=
  fun heq => hne (List.inj_on_of_nodup_map l.nodup hf hg (String.toList_inj.mp heq))

namespace Edited

/-- After all edits, each field is found as it may be. -/
theorem exists_single? (h : l.Edited entries) :
    ∀ f ∈ l.fields, ∃ x, single? f.key.toList entries = some x ∧ f.Admits x := by
  simp only [single?_eq_some_iff]
  induction h with
  | unchanged =>
    intro f hf
    obtain ⟨v, hv, hholds⟩ := exists_under_of_encodes l.nodup l.encodes f hf
    exact ⟨some v, hv, hholds⟩
  | permuted _ hperm ih =>
    intro f hf
    obtain ⟨x, hx, hadmits⟩ := ih f hf
    have hsame := under_perm f.key.toList hperm
    -- a list of at most one value has no other order
    refine ⟨x, ?_, hadmits⟩
    rw [hx] at hsame
    cases x with
    | none => exact List.nil_perm.mp hsame
    | some v => exact (List.singleton_perm.mp hsame).symm
  | inserted _ hname _ ih =>
    intro f hf
    rw [under_insert_of_ne fun heq => hname (List.mem_map.mpr ⟨f, hf, heq.symm⟩)]
    exact ih f hf
  | @dropped before after g v _ hg hmiss ih =>
    intro f hf
    obtain ⟨x, hx, hadmits⟩ := ih f hf
    by_cases hfg : f = g
    · subst hfg
      obtain ⟨hbefore, hafter⟩ := under_around_eq_nil hx
      exact ⟨none, by rw [under_append, hbefore, hafter]; rfl, hmiss⟩
    · rw [under_insert_of_ne (toList_key_ne hg hf (Ne.symm hfg))] at hx
      exact ⟨x, hx, hadmits⟩
  | @inside before after g v v' _ hg hv ih =>
    intro f hf
    obtain ⟨x, hx, hadmits⟩ := ih f hf
    by_cases hfg : f = g
    · subst hfg
      obtain ⟨hbefore, hafter⟩ := under_around_eq_nil hx
      exact ⟨some v', by rw [under_append, under_cons_self, hbefore, hafter]; rfl, hv⟩
    · rw [under_insert_of_ne (toList_key_ne hg hf (Ne.symm hfg))] at hx ⊢
      exact ⟨x, hx, hadmits⟩

/-- Every value of a record means what a field holds, or may stand there anyway. -/
theorem forall_value {P : Tree → Prop} (hfields : ∀ f ∈ l.fields, ∀ v, f.Holds v → P v)
    (hstand : ∀ v, l.MayStand v → P v) (h : l.Edited entries) : ∀ e ∈ entries, P e.2 := by
  induction h with
  | unchanged =>
    intro e he
    obtain ⟨f, hf, hfe⟩ := exists_field_of_encodes l.encodes e he
    exact hfields f hf e.2 hfe.2
  | permuted _ hperm ih => exact fun e he => ih e (hperm.mem_iff.mpr he)
  | inserted _ _ hv ih =>
    simp only [List.forall_mem_append, List.forall_mem_cons] at ih ⊢
    exact ⟨ih.1, hstand _ hv, ih.2⟩
  | dropped _ _ _ ih =>
    simp only [List.forall_mem_append, List.forall_mem_cons] at ih ⊢
    exact ⟨ih.1, ih.2.2⟩
  | inside _ hf hv ih =>
    simp only [List.forall_mem_append, List.forall_mem_cons] at ih ⊢
    exact ⟨ih.1, hfields _ hf _ hv, ih.2.2⟩

end Edited

end Layout

end

end NameTables
