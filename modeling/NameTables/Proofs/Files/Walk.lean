import NameTables.Files.Walk

/-!
# Walks as derivations

That a walk ends at a place is told here by what happens on it: a segment is taken, a link is
followed, or one at the end is left alone.  What holds of all walks is then proved by induction on
how they go.

## Main definitions

* `Files.Leads` — segments lead from one place to another.

## Main statements

* `Files.walk_eq_ok_iff` — walks are what leads from place to place.
* `Files.Leads.concat`, `Files.Leads.of_concat` — the last segment of a walk on its own.
-/

namespace NameTables

namespace Files

variable {fs : Files} {toEnd : Bool} {links : Nat} {start dir next place : Place}
  {segment last : Text} {segments rest : List Text} {p : Path}

/-- Where the walk goes on after a link at a place. -/
def afterLink (place : Place) (target : Text) : Place :=
  if (Path.mk target).isAbsolute then [] else place.tail

/-- The segments lead from one place to another, over so many links at most. -/
inductive Leads (fs : Files) (toEnd : Bool) : Nat → Place → List Text → Place → Prop
  /-- No segments lead nowhere else. -/
  | here {links : Nat} (place : Place) : Leads fs toEnd links place [] place
  /-- A segment that leads to no link is taken. -/
  | on {links : Nat} {start next place : Place} {segment : Text} {rest : List Text}
    (henter : fs.enter start segment = .ok next)
    (hnode : ∀ target, fs.node? next ≠ some (.link target))
    (hrest : Leads fs toEnd links next rest place) :
    Leads fs toEnd links start (segment :: rest) place
  /-- A segment leads to a link, which is followed. -/
  | follow {links : Nat} {start next place : Place} {segment target : Text} {rest : List Text}
    (henter : fs.enter start segment = .ok next) (hlink : fs.node? next = some (.link target))
    (hgo : toEnd ∨ rest ≠ [])
    (hrest : Leads fs toEnd links (afterLink next target) (segmentsOf ⟨target⟩ ++ rest) place) :
    Leads fs toEnd (links + 1) start (segment :: rest) place
  /-- The last segment leads to a link, which is left alone. -/
  | stop {links : Nat} {start next : Place} {segment target : Text}
    (henter : fs.enter start segment = .ok next) (hlink : fs.node? next = some (.link target))
    (hstop : toEnd = false) :
    Leads fs toEnd links start [segment] next

/-! ### Walks -/

/-- A link is followed if it is not at the end, or if those at the end are followed too. -/
theorem goesOn_iff : (toEnd || !rest.isEmpty) = true ↔ toEnd ∨ rest ≠ [] := by
  rw [Bool.or_eq_true, Bool.not_eq_true', List.isEmpty_eq_false_iff]

theorem walkUpTo_of_link {follow : Place → List Text → Except IoFault Place} {target : Text}
    (henter : fs.enter start segment = .ok next) (hlink : fs.node? next = some (.link target)) :
    fs.walkUpTo toEnd follow start (segment :: rest)
      = if toEnd || !rest.isEmpty then follow (afterLink next target) (segmentsOf ⟨target⟩ ++ rest)
        else .ok next := by
  rw [walkUpTo, henter]
  simp only [hlink]
  rfl

theorem walkUpTo_of_no_link {follow : Place → List Text → Except IoFault Place}
    (henter : fs.enter start segment = .ok next)
    (hnode : ∀ target, fs.node? next ≠ some (.link target)) :
    fs.walkUpTo toEnd follow start (segment :: rest) = fs.walkUpTo toEnd follow next rest := by
  rw [walkUpTo, henter]
  dsimp only
  split
  · next target hlink => exact absurd hlink (hnode target)
  · rfl

theorem walkUpTo_of_error {follow : Place → List Text → Except IoFault Place} {fault : IoFault}
    (henter : fs.enter start segment = .error fault) :
    fs.walkUpTo toEnd follow start (segment :: rest) = .error fault := by
  rw [walkUpTo, henter]

/-- Segments lead up to a link, and from there on to wherever `follow` does. -/
theorem leads_of_walkUpTo {follow : Place → List Text → Except IoFault Place}
    (hfollow : ∀ start segments, follow start segments = .ok place →
      ∃ fewer, links = fewer + 1 ∧ fs.Leads toEnd fewer start segments place)
    (h : fs.walkUpTo toEnd follow start segments = .ok place) :
    fs.Leads toEnd links start segments place := by
  induction segments generalizing start with
  | nil =>
    cases h
    exact .here _
  | cons segment rest ih =>
    cases henter : fs.enter start segment with
    | error fault =>
      rw [walkUpTo_of_error henter] at h
      cases h
    | ok next =>
      by_cases hnode : ∃ target, fs.node? next = some (.link target)
      · obtain ⟨target, hlink⟩ := hnode
        rw [walkUpTo_of_link henter hlink] at h
        split at h
        · next hgo =>
          obtain ⟨fewer, rfl, hrest⟩ := hfollow _ _ h
          exact .follow henter hlink (goesOn_iff.mp hgo) hrest
        · next hstop =>
          cases h
          rw [goesOn_iff, not_or, ne_eq, Decidable.not_not, Bool.not_eq_true] at hstop
          obtain ⟨hend, rfl⟩ := hstop
          exact .stop henter hlink hend
      · have hnode' : ∀ target, fs.node? next ≠ some (.link target) :=
          fun target hlink => hnode ⟨target, hlink⟩
        rw [walkUpTo_of_no_link henter hnode'] at h
        exact .on henter hnode' (ih h)

theorem leads_of_walk (h : fs.walk toEnd links start segments = .ok place) :
    fs.Leads toEnd links start segments place := by
  induction links generalizing start segments with
  | zero =>
    refine leads_of_walkUpTo ?_ h
    exact nofun
  | succ links ih =>
    exact leads_of_walkUpTo (fun _ _ hfollow => ⟨links, rfl, ih hfollow⟩) h

/-- Whatever the number of links, a walk begins with what it leads to up to a link. -/
theorem exists_walk_eq (fs : Files) (toEnd : Bool) (links : Nat) :
    ∃ follow, fs.walk toEnd links = fs.walkUpTo toEnd follow := by
  cases links with
  | zero => exact ⟨_, rfl⟩
  | succ links => exact ⟨_, rfl⟩

theorem Leads.walk_eq (h : fs.Leads toEnd links start segments place) :
    fs.walk toEnd links start segments = .ok place := by
  induction h with
  | @here links place =>
    obtain ⟨follow, hwalk⟩ := exists_walk_eq fs toEnd links
    rw [hwalk]
    rfl
  | @on links _ _ _ _ _ henter hnode _ ih =>
    obtain ⟨follow, hwalk⟩ := exists_walk_eq fs toEnd links
    rw [hwalk] at ih ⊢
    rwa [walkUpTo_of_no_link henter hnode]
  | follow henter hlink hgo _ ih =>
    rw [walk, walkUpTo_of_link henter hlink, if_pos (goesOn_iff.mpr hgo), ih]
  | @stop links _ _ _ _ henter hlink hstop =>
    obtain ⟨follow, hwalk⟩ := exists_walk_eq fs toEnd links
    rw [hwalk, walkUpTo_of_link henter hlink, hstop]
    rfl

/-- Walks are what leads from place to place. -/
theorem walk_eq_ok_iff : fs.walk toEnd links start segments = .ok place
    ↔ fs.Leads toEnd links start segments place :=
  ⟨leads_of_walk, Leads.walk_eq⟩

/-! ### The last segment -/

/-- The last segment of a walk that leaves a link at the end alone is taken from where the others
lead to. -/
theorem Leads.concat (h : fs.Leads true links start segments dir)
    (henter : fs.enter dir last = .ok place) :
    fs.Leads false links start (segments ++ [last]) place := by
  induction h with
  | here dir =>
    by_cases hnode : ∃ target, fs.node? place = some (.link target)
    · obtain ⟨target, hlink⟩ := hnode
      exact .stop henter hlink rfl
    · exact .on henter (fun target hlink => hnode ⟨target, hlink⟩) (.here place)
  | on hfirst hnode _ ih => exact .on hfirst hnode (ih henter)
  | follow hfirst hlink _ _ ih =>
    have hrest := ih henter
    rw [List.append_assoc] at hrest
    exact .follow hfirst hlink (.inr (List.append_ne_nil_of_right_ne_nil _ (List.cons_ne_nil _ _)))
      hrest
  | stop _ _ hstop => cases hstop

theorem Leads.of_concat (h : fs.Leads false links start (segments ++ [last]) place) :
    ∃ dir, fs.Leads true links start segments dir ∧ fs.enter dir last = .ok place := by
  generalize hall : segments ++ [last] = all at h
  induction h generalizing segments with
  | here => exact absurd hall (List.append_ne_nil_of_right_ne_nil _ (List.cons_ne_nil _ _))
  | on hfirst hnode hrest ih =>
    cases segments with
    | nil =>
      cases hall
      cases hrest
      exact ⟨_, .here _, hfirst⟩
    | cons segment before =>
      cases hall
      obtain ⟨dir, hdir, henter⟩ := ih rfl
      exact ⟨dir, .on hfirst hnode hdir, henter⟩
  | follow hfirst hlink hgo _ ih =>
    cases segments with
    | nil =>
      cases hall
      simp at hgo
    | cons segment before =>
      cases hall
      obtain ⟨dir, hdir, henter⟩ := ih (List.append_assoc ..)
      exact ⟨dir, .follow hfirst hlink (.inl rfl) hdir, henter⟩
  | stop hfirst =>
    cases segments with
    | nil =>
      cases hall
      exact ⟨_, .here _, hfirst⟩
    | cons segment before => simp at hall

/-- A walk that ends at no link ends there, too, if a link at the end is to be followed. -/
theorem Leads.followed (h : fs.Leads toEnd links start segments place)
    (hnode : ∀ target, fs.node? place ≠ some (.link target)) :
    fs.Leads true links start segments place := by
  induction h with
  | here place => exact .here place
  | on henter hfirst _ ih => exact .on henter hfirst (ih hnode)
  | follow henter hlink _ _ ih => exact .follow henter hlink (.inl rfl) (ih hnode)
  | stop _ hlink => exact absurd hlink (hnode _)

end Files

end NameTables
