import NameTables.Proofs.Settings.Edits
import NameTables.Settings.Decode

/-!
# Settings that are written down are read back

What is decoded from the value tree of settings is these settings.  This is so for the tree they
are encoded as, and for every tree that harmless edits make of it: at each record inside, its
entries are put in another order, entries that are no fields are put in, and fields that hold their
defaults are left out.

A shape is read in two steps, as its fields depend on its kind: all its values are kept as trees
until the kind is known.  What cannot be kept must not stand in a shape, though it may stand
anywhere else.

## Main definitions

* `Shape.layout`, `Target.layout`, `ToolSettings.layout`, `Settings.layout` — the fields of settings
  and their parts.
* `Tree.readingWithin` — a reading with its own limit to how deep a value inside a shape may nest.

## Main statements

* `Shape.decode?_of_writtenAs`, `Target.decode?_of_writtenAs`, `ToolSettings.decode?_of_writtenAs` —
  the parts are read back from all trees they are written as.
* `Settings.decode_toTree_of_edits` — so are the settings.
-/

namespace NameTables

variable {depth : Nat} {v : Tree}

/-! ### The fields of settings -/

/-- The fields of a shape besides its kind. -/
def Shape.besidesKind : Shape → List Field
  | .records typeName valueType arrayName order => [
      ⟨"type_name", (· = .text typeName), False⟩,
      ⟨"value_type", (· = .text valueType), False⟩,
      ⟨"array_name", (· = .text arrayName), False⟩,
      ⟨"order", (· = order.toTree), order = .encounter⟩]
  | .slots arrayName bound => [
      ⟨"array_name", (· = .text arrayName), False⟩,
      ⟨"bound", (· = .ofOption .text bound), bound = none⟩]

/-- The keys of these fields. -/
def Shape.declared : Shape → List String
  | .records .. => recordsFields
  | .slots .. => slotsFields

theorem Shape.map_key_besidesKind (s : Shape) : s.besidesKind.map Field.key = s.declared := by
  cases s <;> rfl

/-- A shape, with its kind as one of the fields.  Besides these there may be what can be kept when
lists and records may nest `depth` deep. -/
def Shape.layout (depth : Nat) (s : Shape) : Layout where
  fields := ⟨"kind", (· = .text s.kind), False⟩ :: s.besidesKind
  entries := s.entries
  MayStand v := v.storable depth
  encodes :=
    match s with
    | .records .. => .cons ⟨rfl, rfl⟩ <| .cons ⟨rfl, rfl⟩ <| .cons ⟨rfl, rfl⟩ <|
        .cons ⟨rfl, rfl⟩ <| .cons ⟨rfl, rfl⟩ .nil
    | .slots .. => .cons ⟨rfl, rfl⟩ <| .cons ⟨rfl, rfl⟩ <| .cons ⟨rfl, rfl⟩ .nil
  nodup := by
    rw [List.map_cons, Shape.map_key_besidesKind]
    cases s with
    | records => exact show ("kind" :: recordsFields).Nodup by decide
    | slots => exact show ("kind" :: slotsFields).Nodup by decide

/-- A target. -/
def Target.layout (depth : Nat) (t : Target) : Layout where
  fields := [
    ⟨"name", (· = .text t.name), False⟩,
    ⟨"header", (· = .text t.header), False⟩,
    ⟨"package", (· = .ofOption .text t.package), t.package = none⟩,
    ⟨"prefix", (· = .text t.stem), t.stem = []⟩,
    ⟨"shape", (t.shape.layout depth).WrittenAs, False⟩,
    ⟨"output", (· = .ofPath t.output), False⟩,
    ⟨"comment", (· = .ofOption .text t.comment), t.comment = none⟩]
  entries := t.entries
  MayStand _ := True
  encodes := .cons ⟨rfl, rfl⟩ <| .cons ⟨rfl, rfl⟩ <| .cons ⟨rfl, rfl⟩ <| .cons ⟨rfl, rfl⟩ <|
    .cons ⟨rfl, (t.shape.layout depth).writtenAs_object⟩ <| .cons ⟨rfl, rfl⟩ <|
      .cons ⟨rfl, rfl⟩ .nil
  nodup := show Target.fields.Nodup by decide

theorem Target.map_key_layout (t : Target) :
    (t.layout depth).fields.map Field.key = Target.fields := rfl

/-- The tools. -/
def ToolSettings.layout (s : ToolSettings) : Layout where
  fields := [
    ⟨"compiler", (· = .ofOption .ofPath s.compiler), s.compiler = default.compiler⟩,
    ⟨"pkg_config", (· = .ofPath s.packageTool), s.packageTool = default.packageTool⟩,
    ⟨"timeout_secs", (· = .natural s.timeoutSeconds), s.timeoutSeconds = default.timeoutSeconds⟩,
    ⟨"include_dirs", (· = .list (s.includeDirs.map .ofPath)), s.includeDirs = default.includeDirs⟩]
  entries := s.entries
  MayStand _ := True
  encodes := .cons ⟨rfl, rfl⟩ <| .cons ⟨rfl, rfl⟩ <| .cons ⟨rfl, rfl⟩ <| .cons ⟨rfl, rfl⟩ .nil
  nodup := show ToolSettings.fields.Nodup by decide

theorem ToolSettings.map_key_layout (s : ToolSettings) :
    s.layout.fields.map Field.key = ToolSettings.fields := rfl

/-- Targets are written as the tree, a list of what each is written as. -/
def Target.AllWrittenAs (depth : Nat) (targets : List Target) (v : Tree) : Prop :=
  ∃ items, v = .list items ∧ List.Forall₂ (fun t => (t.layout depth).WrittenAs) targets items

theorem Target.allWrittenAs_list (targets : List Target) :
    AllWrittenAs depth targets (.list (targets.map toTree)) := by
  refine ⟨_, rfl, ?_⟩
  rw [List.forall₂_map_right_iff, List.forall₂_same]
  exact fun t _ => (t.layout depth).writtenAs_object

/-- The settings. -/
def Settings.layout (depth : Nat) (s : Settings) : Layout where
  fields := [
    ⟨"toolchain", s.tools.layout.WrittenAs, s.tools = default.tools⟩,
    ⟨"output_dir", (· = .ofOption .ofPath s.outputDir), s.outputDir = default.outputDir⟩,
    ⟨"targets", Target.AllWrittenAs depth s.targets, s.targets = default.targets⟩]
  entries := s.entries
  MayStand _ := True
  encodes := .cons ⟨rfl, s.tools.layout.writtenAs_object⟩ <| .cons ⟨rfl, rfl⟩ <|
    .cons ⟨rfl, Target.allWrittenAs_list s.targets⟩ .nil
  nodup := show Settings.fields.Nodup by decide

theorem Settings.map_key_layout (s : Settings) :
    (s.layout depth).fields.map Field.key = Settings.fields := rfl

/-! ### Reading a field -/

section

variable {α : Type} {decode : Tree → Option α} {a default : α} {f : Field} {x : Option Tree}

theorem required?_of_admits (h : f.Admits x) (hthere : ¬f.MayMiss)
    (hdecode : ∀ v, f.Holds v → decode v = some a) : required? decode x = some a := by
  cases x with
  | none => exact absurd h hthere
  | some v => exact hdecode v h

theorem fieldOr?_of_admits (h : f.Admits x) (hmiss : f.MayMiss → a = default)
    (hdecode : ∀ v, f.Holds v → decode v = some a) : fieldOr? decode default x = some a := by
  cases x with
  | none => exact congrArg some (hmiss h).symm
  | some v => exact hdecode v h

/-- A field with one value only. -/
theorem required?_of_eq {key : String} (h : (Field.mk key (· = v) False).Admits x)
    (hdecode : decode v = some a) : required? decode x = some a :=
  required?_of_admits h id fun _ hv => hv ▸ hdecode

/-- A field with one value only, which may be missing while it holds its default. -/
theorem fieldOr?_of_eq {key : String} (h : (Field.mk key (· = v) (a = default)).Admits x)
    (hdecode : decode v = some a) : fieldOr? decode default x = some a :=
  fieldOr?_of_admits h id fun _ hv => hv ▸ hdecode

theorem orFail_eq (x : Option α) : orFail x = x := by cases x <;> rfl

end

/-! ### Reading a value -/

namespace Tree

variable {α : Type} {entries : List (Text × Tree)}

/-- A reading of value trees like `Tree.reading`, with its own limit to how deep a value inside a
shape may nest. -/
def readingWithin (depth : Nat) : Reading Option Tree :=
  { reading with tree? := fun v => if v.storable depth then some v else none }

theorem reading_eq_readingWithin : reading = readingWithin (depthLimit - variantDepth) := rfl

theorem reading_text?_text (s : Text) : (readingWithin depth).text? (text s) = some s := rfl

theorem reading_path?_ofPath (p : Path) : (readingWithin depth).path? (ofPath p) = some p := rfl

theorem reading_natural?_natural {n : Nat} (h : n ≤ greatestWord) :
    (readingWithin depth).natural? (natural n) = some n := if_pos h

theorem reading_orNone?_text (s : Option Text) :
    (readingWithin depth).orNone? (readingWithin depth).text? (ofOption text s) = some s := by
  cases s <;> rfl

theorem reading_orNone?_path (p : Option Path) :
    (readingWithin depth).orNone? (readingWithin depth).path? (ofOption ofPath p) = some p := by
  cases p <;> rfl

/-- Values that are read one by one are read together. -/
theorem mapM_eq_some_of_forall₂ {β : Type} {f : α → Option β} {as : List α} {bs : List β}
    (h : List.Forall₂ (fun a b => f a = some b) as bs) : as.mapM f = some bs := by
  induction h with
  | nil => rfl
  | cons hab _ ih =>
    rw [List.mapM_cons, hab, ih]
    rfl

theorem reading_each?_list {decode : Tree → Option α} {items : List Tree} {as : List α}
    (h : List.Forall₂ (fun a v => decode v = some a) as items) :
    (readingWithin depth).each? decode (list items) = some as :=
  mapM_eq_some_of_forall₂ h.flip

theorem reading_each?_path (ps : List Path) :
    (readingWithin depth).each? (readingWithin depth).path? (list (ps.map ofPath)) = some ps := by
  refine reading_each?_list ?_
  rw [List.forall₂_map_right_iff, List.forall₂_same]
  exact fun p _ => rfl

theorem text?_text (s : Text) : text? (text s) = some s := rfl

theorem orNull?_ofOption (s : Option Text) : orNull? (ofOption text s) = some s := by
  cases s <;> rfl

/-- The entries of a record, their keys as values. -/
def keyed (entries : List (Text × Tree)) : List (Tree × Tree) :=
  entries.map fun e => (text e.1, e.2)

theorem forall₂_keyed {R : Tree × Tree → Text × Tree → Prop}
    (h : ∀ e ∈ entries, R (text e.1, e.2) e) : List.Forall₂ R (keyed entries) entries := by
  rw [keyed, List.forall₂_map_left_iff, List.forall₂_same]
  exact h

/-- The fields of a record whose keys are texts are under these texts. -/
theorem reading_fields?_object :
    (readingWithin depth).fields? (object entries) = some (.named entries) := by
  have h : (keyed entries).mapM (fun field => (text? field.1).map (·, field.2)) = some entries :=
    mapM_eq_some_of_forall₂ (forall₂_keyed fun e _ => rfl)
  exact congrArg (Option.map Fields.named) h

theorem reading_variant?_object :
    (readingWithin depth).variant? (object entries) = some (.named (keyed entries)) := by
  refine if_pos (List.all_eq_true.mpr ?_)
  rw [List.forall_mem_map]
  exact fun e _ => rfl

theorem mapM_tree?_keyed (h : ∀ e ∈ entries, e.2.storable depth) :
    (keyed entries).mapM (fun field => return (field.1, ← (readingWithin depth).tree? field.2))
      = some (keyed entries) := by
  refine mapM_eq_some_of_forall₂ ?_
  rw [keyed, List.forall₂_same, List.forall_mem_map]
  intro e he
  have hkept : (readingWithin depth).tree? e.2 = some e.2 := if_pos (h e he)
  rw [hkept]
  rfl

end Tree

open NameTables.Tree

/-- What is found of a record's fields, whatever the edits. -/
theorem Layout.WrittenAs.exists_fields? {l : Layout} {declared : List String} (h : l.WrittenAs v)
    (depth : Nat) (hdeclared : l.fields.map Field.key = declared) :
    ∃ entries xs, (readingWithin depth).fields? v = some (.named entries)
      ∧ Fields.assign? declared (.named entries) = some xs
      ∧ List.Forall₂ Field.Admits l.fields xs := by
  obtain ⟨entries, rfl, hedited⟩ := h
  obtain ⟨xs, hxs, hadmits⟩ := Fields.exists_assign? hedited.exists_single?
  exact ⟨entries, xs, reading_fields?_object, hdeclared ▸ hxs, hadmits⟩

/-! ### Shapes -/

theorem RowOrder.decode?_toTree (order : RowOrder) : decode? order.toTree = some order := by
  cases order <;> rfl

namespace Shape

variable {s : Shape} {entries : List (Text × Tree)}

/-- The entries whose key is not that of the kind. -/
def besides (entries : List (Text × Tree)) : List (Text × Tree) :=
  entries.filter (!·.1 == "kind".toList)

theorem besides_subset : besides entries ⊆ entries := List.filter_subset_self _

theorem filter_isKindKey :
    (keyed entries).filter (isKindKey ·.1) = keyed (entries.filter (·.1 == "kind".toList)) :=
  List.filter_map

theorem filter_not_isKindKey :
    (keyed entries).filter (!isKindKey ·.1) = keyed (besides entries) :=
  List.filter_map

theorem assign?_keyed {declared : List String} :
    assign? declared (.named (keyed entries)) = Fields.assign? declared (.named entries) := by
  have h : (keyed entries).mapM (fun field => (fieldName? declared field.1).map (·, field.2))
      = some entries := mapM_eq_some_of_forall₂ (forall₂_keyed fun e _ => rfl)
  rw [assign?, nameFields?, h]
  rfl

/-- A record whose only kind is a text is taken for a shape of that kind, with the other entries. -/
theorem decode?_object {key kind : Text}
    (hkind : entries.filter (·.1 == "kind".toList) = [(key, .text kind)])
    (hstorable : ∀ e ∈ entries, e.2.storable depth) :
    Shape.decode? (readingWithin depth) (object entries)
      = ofKind? kind (.named (keyed (besides entries))) := by
  have hkept := mapM_tree?_keyed fun e he => hstorable e (besides_subset he)
  rw [Shape.decode?, reading_variant?_object, Option.bind_eq_bind, Option.bind_some]
  dsimp only
  rw [filter_isKindKey, filter_not_isKindKey, hkind, keyed, List.map_singleton]
  dsimp only
  rw [hkept, Option.bind_eq_bind, Option.bind_some]
  exact orFail_eq _

/-- What a shape's own fields hold can be kept, as no list or record is among it. -/
theorem storable_of_holds : ∀ f ∈ (s.layout depth).fields, ∀ v, f.Holds v → v.storable depth := by
  cases s with
  | records typeName valueType arrayName order =>
    cases order <;> simp [layout, besidesKind, RowOrder.toTree, storable]
  | slots arrayName bound =>
    cases bound <;> simp [layout, besidesKind, ofOption, storable]

/-- Whatever the edits, a shape is taken for one of its kind, with the fields besides. -/
theorem exists_decode?_eq (h : (s.layout depth).WrittenAs v) :
    ∃ others xs, Shape.decode? (readingWithin depth) v = ofKind? s.kind (.named others)
      ∧ assign? s.declared (.named others) = some xs
      ∧ List.Forall₂ Field.Admits s.besidesKind xs := by
  obtain ⟨entries, rfl, hedited⟩ := h
  have hfound := hedited.exists_single?
  simp only [Fields.single?_eq_some_iff] at hfound
  obtain ⟨⟨kind, hkind, hadmits⟩, hbesides⟩ := List.forall_mem_cons.mp hfound
  -- the kind is there, once, and tells which fields there are besides
  obtain _ | kind := kind
  · exact hadmits.elim
  obtain rfl : kind = .text s.kind := hadmits
  obtain ⟨⟨key, _⟩, hfilter, rfl⟩ := List.map_eq_singleton_iff.mp hkind
  -- the other fields are still found when the kind is taken out
  have hothers : ∀ f ∈ s.besidesKind, ∃ x,
      Fields.single? f.key.toList (besides entries) = some x ∧ f.Admits x := by
    intro f hf
    have hne : f.key.toList ≠ "kind".toList := fun heq =>
      (List.nodup_cons.mp (s.layout depth).nodup).1
        (List.mem_map.mpr ⟨f, hf, String.toList_inj.mp heq⟩)
    simp only [Fields.single?_eq_some_iff, besides, Fields.under_filter_of_ne hne]
    exact hbesides f hf
  obtain ⟨xs, hxs, hall⟩ := Fields.exists_assign? hothers
  refine ⟨_, xs, decode?_object hfilter ?_, ?_, hall⟩
  · exact hedited.forall_value storable_of_holds fun _ h => h
  · rw [assign?_keyed, ← map_key_besidesKind, hxs]

/-- A shape is read back from all trees it is written as. -/
theorem decode?_of_writtenAs (h : (s.layout depth).WrittenAs v) :
    Shape.decode? (readingWithin depth) v = some s := by
  obtain ⟨others, xs, hdecode, hassign, hadmits⟩ := exists_decode?_eq h
  rw [hdecode]
  cases s with
  | records typeName valueType arrayName order =>
    obtain _ | ⟨htype, _ | ⟨hvalue, _ | ⟨harray, _ | ⟨horder, ⟨⟩⟩⟩⟩⟩ := hadmits
    rw [declared] at hassign
    show ofKind? "struct_array".toList _ = _
    rw [ofKind?, if_pos rfl, hassign, Option.bind_eq_bind, Option.bind_some]
    dsimp only
    rw [required?_of_eq htype (text?_text _), required?_of_eq hvalue (text?_text _),
      required?_of_eq harray (text?_text _), fieldOr?_of_eq horder order.decode?_toTree]
    rfl
  | slots arrayName bound =>
    obtain _ | ⟨harray, _ | ⟨hbound, ⟨⟩⟩⟩ := hadmits
    rw [declared] at hassign
    show ofKind? "flat_array".toList _ = _
    rw [ofKind?, if_neg (by decide), if_pos rfl, hassign, Option.bind_eq_bind, Option.bind_some]
    dsimp only
    rw [required?_of_eq harray (text?_text _), fieldOr?_of_eq hbound (orNull?_ofOption bound)]
    rfl

end Shape

/-! ### Targets, tools and settings -/

/-- A target is read back from all trees it is written as. -/
theorem Target.decode?_of_writtenAs {t : Target} (h : (t.layout depth).WrittenAs v) :
    Target.decode? (readingWithin depth) v = some t := by
  obtain ⟨entries, xs, hfields, hassign, hadmits⟩ := h.exists_fields? depth t.map_key_layout
  obtain _ | ⟨hname, _ | ⟨hheader, _ | ⟨hpackage, _ | ⟨hstem, _ | ⟨hshape, _ | ⟨houtput,
    _ | ⟨hcomment, ⟨⟩⟩⟩⟩⟩⟩⟩⟩ := hadmits
  rw [Target.decode?, hfields, Option.bind_eq_bind, Option.bind_some, hassign, orFail_eq,
    Option.bind_eq_bind, Option.bind_some]
  dsimp only
  rw [required?_of_eq hname (reading_text?_text _), required?_of_eq hheader (reading_text?_text _),
    fieldOr?_of_eq hpackage (reading_orNone?_text _), fieldOr?_of_eq hstem (reading_text?_text _),
    required?_of_admits hshape id fun v hv => Shape.decode?_of_writtenAs hv,
    required?_of_eq houtput (reading_path?_ofPath _),
    fieldOr?_of_eq hcomment (reading_orNone?_text _)]
  rfl

/-- The tools are read back from all trees they are written as. -/
theorem ToolSettings.decode?_of_writtenAs {s : ToolSettings}
    (hword : s.timeoutSeconds ≤ greatestWord) (h : s.layout.WrittenAs v) :
    ToolSettings.decode? (readingWithin depth) v = some s := by
  obtain ⟨entries, xs, hfields, hassign, hadmits⟩ := h.exists_fields? depth s.map_key_layout
  obtain _ | ⟨hcompiler, _ | ⟨hpackageTool, _ | ⟨htimeout, _ | ⟨hdirs, ⟨⟩⟩⟩⟩⟩ := hadmits
  rw [ToolSettings.decode?, hfields, Option.bind_eq_bind, Option.bind_some, hassign, orFail_eq,
    Option.bind_eq_bind, Option.bind_some]
  dsimp only
  rw [fieldOr?_of_eq hcompiler (reading_orNone?_path _),
    fieldOr?_of_eq hpackageTool (reading_path?_ofPath _),
    fieldOr?_of_eq htimeout (reading_natural?_natural hword),
    fieldOr?_of_eq hdirs (reading_each?_path _)]
  rfl

namespace Settings

variable {s : Settings}

/-- Settings are read back from all trees they are written as. -/
theorem decode?_of_writtenAs (hword : s.tools.timeoutSeconds ≤ greatestWord)
    (h : (s.layout depth).WrittenAs v) : Settings.decode? (readingWithin depth) v = some s := by
  obtain ⟨entries, xs, hfields, hassign, hadmits⟩ := h.exists_fields? depth s.map_key_layout
  obtain _ | ⟨htools, _ | ⟨houtputDir, _ | ⟨htargets, ⟨⟩⟩⟩⟩ := hadmits
  have hreadTargets : ∀ v, Target.AllWrittenAs depth s.targets v →
      (readingWithin depth).each? (Target.decode? (readingWithin depth)) v = some s.targets := by
    rintro v ⟨items, rfl, hitems⟩
    exact reading_each?_list (hitems.imp fun t v => Target.decode?_of_writtenAs)
  rw [Settings.decode?, hfields, Option.bind_eq_bind, Option.bind_some, hassign, orFail_eq,
    Option.bind_eq_bind, Option.bind_some]
  dsimp only
  rw [fieldOr?_of_admits htools id fun v hv => ToolSettings.decode?_of_writtenAs hword hv,
    fieldOr?_of_eq houtputDir (reading_orNone?_path _),
    fieldOr?_of_admits htargets id hreadTargets]
  rfl

/-- **Settings are read back.**  What is decoded from the tree of settings is these settings, and so
it is from whatever edits make of that tree.  The number of seconds is one that a word of 64 bits
holds.  `Tree.reading` keeps inside a shape what nests no deeper than a JSON text may nest.  A tree
that never was a text has no such bound, so the last part leaves the bound free. -/
theorem decode_toTree_of_edits (hword : s.tools.timeoutSeconds ≤ greatestWord) :
    decode? reading s.toTree = some s
      ∧ (∀ v, (s.layout (depthLimit - variantDepth)).WrittenAs v → decode? reading v = some s)
      ∧ ∀ depth v, (s.layout depth).WrittenAs v → decode? (readingWithin depth) v = some s := by
  rw [reading_eq_readingWithin]
  refine ⟨?_, fun v h => ?_, fun depth v h => ?_⟩
  · exact decode?_of_writtenAs hword (s.layout _).writtenAs_object
  · exact decode?_of_writtenAs hword h
  · exact decode?_of_writtenAs hword h

/-- A flat array whose kind stands behind its name, with a key of the other kind between them, and
settings that say nothing of the tools. -/
theorem decode_toTree_of_edits_at_keys :
    decode? reading (object [
      ("note".toList, .outOfRange),
      ("targets".toList, .list [object [
        ("shape".toList, object [
          ("array_name".toList, .text "names".toList),
          ("order".toList, .list []),
          ("kind".toList, .text "flat_array".toList)]),
        ("output".toList, .text "names.h".toList),
        ("name".toList, .text "keys".toList),
        ("header".toList, .text "keys.h".toList)]])])
      = some ⟨.default, none, [⟨"keys".toList, "keys.h".toList, none, [],
          .slots "names".toList none, ⟨"names.h".toList⟩, none⟩]⟩ := by
  have hshape : ((Shape.slots "names".toList none).layout (depthLimit - variantDepth)).WrittenAs
      (object [("array_name".toList, .text "names".toList), ("order".toList, .list []),
        ("kind".toList, .text "flat_array".toList)]) := by
    refine ⟨_, rfl, @Layout.Edited.inserted _ [_] [_] _ _ (.permuted ?_ (.swap _ _ []))
      (by decide) rfl⟩
    exact @Layout.Edited.dropped _ [_, _] [] ⟨"bound", _, _⟩ _ .unchanged
      (.tail _ <| .tail _ <| .head _) rfl
  have htarget : (Target.layout (depthLimit - variantDepth) ⟨"keys".toList, "keys.h".toList, none,
        [], .slots "names".toList none, ⟨"names.h".toList⟩, none⟩).WrittenAs
      (object [
        ("shape".toList, object [
          ("array_name".toList, .text "names".toList),
          ("order".toList, .list []),
          ("kind".toList, .text "flat_array".toList)]),
        ("output".toList, .text "names.h".toList),
        ("name".toList, .text "keys".toList),
        ("header".toList, .text "keys.h".toList)]) := by
    refine ⟨_, rfl, .permuted ?_ (@List.perm_append_comm _ [_, _] [_, _])⟩
    refine @Layout.Edited.dropped _ [_, _, _, _] [] ⟨"comment", _, _⟩ .null ?_
      (.tail _ <| .tail _ <| .tail _ <| .tail _ <| .tail _ <| .tail _ <| .head _) rfl
    refine @Layout.Edited.dropped _ [_, _] [_, _, _] ⟨"prefix", _, _⟩ (.text []) ?_
      (.tail _ <| .tail _ <| .tail _ <| .head _) rfl
    refine @Layout.Edited.dropped _ [_, _] [_, _, _, _] ⟨"package", _, _⟩ .null ?_
      (.tail _ <| .tail _ <| .head _) rfl
    exact @Layout.Edited.inside _ [_, _, _, _] [_, _] ⟨"shape", _, _⟩ _ _ .unchanged
      (.tail _ <| .tail _ <| .tail _ <| .tail _ <| .head _) hshape
  refine (decode_toTree_of_edits (by decide)).2.1 _ ⟨_, rfl, ?_⟩
  refine @Layout.Edited.inserted _ [] [_] _ _ ?_ (by decide) trivial
  refine @Layout.Edited.dropped _ [] [_] ⟨"output_dir", _, _⟩ .null ?_ (.tail _ <| .head _) rfl
  refine @Layout.Edited.dropped _ [] [_, _] ⟨"toolchain", _, _⟩ ToolSettings.default.toTree ?_
    (.head _) rfl
  exact @Layout.Edited.inside _ [_, _] [] ⟨"targets", _, _⟩ _ _ .unchanged
    (.tail _ <| .tail _ <| .head _) ⟨_, rfl, .cons htarget .nil⟩

end Settings

end NameTables
