import NameTables.Artefact.Basic
import NameTables.Proofs.Text.Cutting

/-!
# The comment in front of the declarations

An artefact is a comment, an empty line and the declarations, in which the comment has no part.  A
comment of one line that opens nothing it does not close is one comment to a compiler, even when it
ends in a backslash: the line that the backslash takes away is the empty one.  A text with a line
feed in it, and one that opens a block comment but does not close it right at its end, is used as it
stands all the same.

## Main definitions

* `IsBlockComment`, `IsComment` — the forms of a comment on one line.
* `IsTame` — the comments that come out as one.
* `Table.declarations` — what stands after the comment of an artefact.
* `spliced`, `afterComment?` — how a compiler finds the end of a comment.

## Main statements

* `isComment_commentLine_iff` — which comments come out as one comment.
* `IsComment.afterComment?_spliced` — a compiler reads nothing else as part of the comment.
* `Table.render_comment` — the comment of an artefact.
* `Table.render_comment_open` — comments that get into the declarations.
-/

namespace NameTables

/-! ### Comments -/

/-- A text that opens a block comment, and closes it at its end and nowhere before. -/
def IsBlockComment (c : Text) : Prop :=
  ['/', '*'] <+: c ∧ ['*', '/'] <:+ c.drop 2 ∧ ¬ ['*', '/'] <:+: (c.drop 2).dropLast

instance (c : Text) : Decidable (IsBlockComment c) :=
  inferInstanceAs (Decidable (['/', '*'] <+: c ∧ ['*', '/'] <:+ c.drop 2
    ∧ ¬ ['*', '/'] <:+: (c.drop 2).dropLast))

/-- A text on one line that is one comment. -/
def IsComment (c : Text) : Prop := '\n' ∉ c ∧ (['/', '/'] <+: c ∨ IsBlockComment c)

instance (c : Text) : Decidable (IsComment c) :=
  inferInstanceAs (Decidable ('\n' ∉ c ∧ (['/', '/'] <+: c ∨ IsBlockComment c)))

/-- A text that comes out as one comment: without the blanks at its end it is on one line, and if it
opens a block comment, it is one. -/
def IsTame (comment : Text) : Prop :=
  '\n' ∉ Text.trimEnd comment
    ∧ (['/', '*'] <+: Text.trimEnd comment → IsBlockComment (Text.trimEnd comment))

instance (comment : Text) : Decidable (IsTame comment) :=
  inferInstanceAs (Decidable ('\n' ∉ Text.trimEnd comment
    ∧ (['/', '*'] <+: Text.trimEnd comment → IsBlockComment (Text.trimEnd comment))))

/-- Which comments come out as one comment. -/
theorem isComment_commentLine_iff (comment : Text) :
    IsComment (commentLine comment) ↔ IsTame comment := by
  unfold IsTame commentLine
  split
  · next rest h =>
    rw [h]
    simp [IsComment]
  · next rest h =>
    rw [h]
    simp [IsComment]
  · next hline hblock =>
    have hopen : ¬ ['/', '*'] <+: Text.trimEnd comment := by
      rintro ⟨rest, h⟩
      exact hblock rest h.symm
    simp [IsComment, hopen]

/-! ### Reading past a comment -/

/-- The text with its lines joined where one ends in a backslash. -/
def spliced : Text → Text
  | [] => []
  | '\\' :: '\n' :: s => spliced s
  | c :: s => c :: spliced s

/-- What follows the first end of a block comment. -/
def afterClose? : Text → Option Text
  | [] => none
  | '*' :: '/' :: s => some s
  | _ :: s => afterClose? s

/-- What follows the comment that a text begins with: a line comment ends in front of the line feed,
a block comment with the first end that comes after its beginning. -/
def afterComment? : Text → Option Text
  | '/' :: '/' :: s => some (s.dropWhile (· != '\n'))
  | '/' :: '*' :: s => afterClose? s
  | _ => none

theorem spliced_cons {c : Char} {s : Text} (h : c = '\\' → s.head? ≠ some '\n') :
    spliced (c :: s) = c :: spliced s := by
  refine spliced.eq_3 c s fun s' hc hs => h hc ?_
  rw [hs, List.head?_cons]

/-- Nothing is joined within a line, nor at its end if no backslash stands there in front of a line
feed. -/
theorem spliced_append {l s : Text} (hl : '\n' ∉ l)
    (hend : l.getLast? = some '\\' → s.head? ≠ some '\n') :
    spliced (l ++ s) = l ++ spliced s := by
  induction l with
  | nil => rfl
  | cons c l ih =>
    rw [List.mem_cons, not_or] at hl
    cases l with
    | nil =>
      refine spliced_cons fun hc => hend ?_
      rw [hc, List.getLast?_singleton]
    | cons d l =>
      have hd : (d :: l ++ s).head? ≠ some '\n' := by
        intro h
        refine hl.2 ?_
        rw [← Option.some.inj h]
        exact List.mem_cons_self
      rw [List.getLast?_cons_cons] at hend
      rw [List.cons_append, spliced_cons fun _ => hd, ih hl.2 hend]
      rfl

/-- The end of a block comment that is closed nowhere before is found. -/
theorem afterClose?_append {body : Text} (h : ¬ ['*', '/'] <:+: body ++ ['*']) (s : Text) :
    afterClose? (body ++ '*' :: '/' :: s) = some s := by
  induction body with
  | nil => rfl
  | cons c body ih =>
    -- no end of a comment stands here, so the search goes on behind the character
    have hearly : ∀ t, c = '*' → body ++ '*' :: '/' :: s = '/' :: t → False := by
      rintro t rfl ht
      refine h ?_
      cases body with
      | nil => cases ht
      | cons d body =>
        obtain ⟨rfl, -⟩ := List.cons.inj ht
        exact (List.prefix_append ['*', '/'] (body ++ ['*'])).isInfix
    rw [List.cons_append, afterClose?.eq_3 _ _ hearly]
    refine ih fun hclosed => h (hclosed.trans ?_)
    exact (List.suffix_cons c (body ++ ['*'])).isInfix

/-- A line comment ends with its line. -/
theorem afterComment?_line {c : Text} (hline : '\n' ∉ c) (hopen : ['/', '/'] <+: c) (s : Text) :
    afterComment? (c ++ '\n' :: s) = some ('\n' :: s) := by
  obtain ⟨rest, rfl⟩ := hopen
  have hrest : '\n' ∉ rest := fun h => hline (List.mem_append_right _ h)
  show some ((rest ++ '\n' :: s).dropWhile (· != '\n')) = some ('\n' :: s)
  rw [dropWhile_append_cons_self hrest]

/-- A block comment ends where it is closed. -/
theorem afterComment?_block {c : Text} (h : IsBlockComment c) (s : Text) :
    afterComment? (c ++ s) = some s := by
  obtain ⟨⟨inside, rfl⟩, ⟨body, hbody⟩, hnowhere⟩ := h
  obtain rfl : body ++ ['*', '/'] = inside := hbody
  have hdrop : (body ++ ['*', '/']).dropLast = body ++ ['*'] := by simp
  have hclose : ¬ ['*', '/'] <:+: body ++ ['*'] := by
    rw [← hdrop]
    exact hnowhere
  have hfound := afterClose?_append hclose s
  show afterClose? (body ++ ['*', '/'] ++ s) = some s
  rwa [List.append_assoc]

/-- A compiler reads past a comment and nothing else: what is left is the empty line, or what a
backslash leaves of it, and the rest. -/
theorem IsComment.afterComment?_spliced {c : Text} (h : IsComment c) (s : Text) :
    afterComment? (spliced (c ++ '\n' :: '\n' :: s)) = some ('\n' :: '\n' :: spliced s)
      ∨ afterComment? (spliced (c ++ '\n' :: '\n' :: s)) = some ('\n' :: spliced s) := by
  obtain ⟨hline, hopen⟩ := h
  have hfeed : ∀ s, spliced ('\n' :: s) = '\n' :: spliced s := fun s => spliced_cons nofun
  by_cases hslash : c.getLast? = some '\\'
  · right
    obtain ⟨l, rfl⟩ := List.getLast?_eq_some_iff.mp hslash
    have hl : '\n' ∉ l := fun h => hline (List.mem_append_left _ h)
    have hjoined : spliced (l ++ ['\\'] ++ '\n' :: '\n' :: s) = l ++ '\n' :: spliced s := by
      rw [List.append_assoc, spliced_append hl (by simp), ← hfeed]
      rfl
    rw [hjoined]
    rcases hopen with hopen | ⟨-, hclose, -⟩
    · refine afterComment?_line hl ((List.prefix_concat_iff.mp hopen).resolve_left fun h => ?_) _
      have hlast := congrArg List.getLast? h
      simp at hlast
    · -- a block comment ends in a slash
      obtain ⟨front, hfront⟩ := hclose.trans (List.drop_suffix 2 _)
      have hlast := congrArg List.getLast? hfront
      simp at hlast
  · left
    have hapart : spliced (c ++ '\n' :: '\n' :: s) = c ++ '\n' :: '\n' :: spliced s := by
      rw [spliced_append hline fun h => absurd h hslash, hfeed, hfeed]
    rw [hapart]
    rcases hopen with hopen | hblock
    · exact afterComment?_line hline hopen _
    · exact afterComment?_block hblock _

/-! ### Artefacts -/

/-- What stands after the comment of an array of records. -/
def Records.declarations (entries : List Entry) (typeName valueType arrayName : Text) : Text :=
  "struct ".toList ++ (typeName ++ (" \x7b\n    const char *name;\n    ".toList
    ++ (valueType ++ (" value;\n\x7d;\n\nstatic const struct ".toList ++ (typeName
      ++ ' ' :: (arrayName ++ ("[] = \x7b\n".toList ++ (body entries ++ closing))))))))

/-- What stands after the comment of a flat array. -/
def Slots.declarations (s : Slots) (arrayName : Text) : Text :=
  "char *".toList ++ (arrayName ++ '[' :: (Text.ofNat s.size ++ ("] = \x7b0\x7d;\n\nvoid init_".toList
    ++ (arrayName ++ (" (void) \x7b\n".toList
      ++ (s.assigned.flatMap (fun (index, e) => assignment arrayName s.indexWidth index e)
        ++ closing))))))

namespace Table

/-- What stands after the comment of an artefact. -/
def declarations (t : Table) : Shape → Except Failure Text
  | .records typeName valueType arrayName order =>
    .ok (Records.declarations (t.ordered order) typeName valueType arrayName)
  | .slots arrayName bound => (Slots.ofTable t bound).map (·.declarations arrayName)

/-- An artefact is the comment, an empty line and the declarations. -/
theorem render_eq (t : Table) (request : Request) :
    t.render request = (t.declarations request.shape).map fun declarations =>
      commentLine request.comment ++ '\n' :: '\n' :: declarations := by
  obtain ⟨stem, shape, comment⟩ := request
  cases shape with
  | records typeName valueType arrayName order =>
    refine congrArg Except.ok ?_
    unfold Records.render Records.opening Records.declarations
    simp only [List.append_assoc]
    rfl
  | slots arrayName bound =>
    show (Slots.ofTable t bound).map _ = ((Slots.ofTable t bound).map _).map _
    cases Slots.ofTable t bound with
    | error failure => rfl
    | ok slots =>
      refine congrArg Except.ok ?_
      unfold Slots.text Slots.opening Slots.declarations
      simp only [List.append_assoc]
      rfl

/-- **The comment of an artefact.**  What is written is the comment line, an empty line and the
declarations, which do not depend on the comment.  The comment line is one comment on one line
exactly when the comment is tame, and then a compiler that reads past it goes on at the empty line,
or at the end of it, and reads the declarations whole. -/
theorem render_comment {t : Table} {request : Request} {text : Text}
    (h : t.render request = .ok text) :
    ∃ declarations, t.declarations request.shape = .ok declarations
      ∧ text = commentLine request.comment ++ '\n' :: '\n' :: declarations
      ∧ (IsComment (commentLine request.comment) ↔ IsTame request.comment)
      ∧ (IsTame request.comment →
        afterComment? (spliced text) = some ('\n' :: '\n' :: spliced declarations)
          ∨ afterComment? (spliced text) = some ('\n' :: spliced declarations)) := by
  rw [render_eq] at h
  cases hdeclarations : t.declarations request.shape with
  | error failure =>
    rw [hdeclarations] at h
    cases h
  | ok declarations =>
    rw [hdeclarations] at h
    cases h
    refine ⟨declarations, rfl, rfl, isComment_commentLine_iff request.comment, fun htame => ?_⟩
    exact ((isComment_commentLine_iff request.comment).mpr htame).afterComment?_spliced declarations

/-- A comment that ends in a backslash and a blank. -/
theorem render_comment_of_backslash :
    let t := build [] [⟨"A".toList, "1".toList⟩]
    let request : Request :=
      ⟨[], .records "name_t".toList "int".toList "names".toList .ascending, "made \\ ".toList⟩
    ∃ text declarations, t.render request = .ok text
      ∧ t.declarations request.shape = .ok declarations
      ∧ IsComment (commentLine request.comment)
      ∧ (afterComment? (spliced text) = some ('\n' :: '\n' :: spliced declarations)
        ∨ afterComment? (spliced text) = some ('\n' :: spliced declarations)) := by
  intro t request
  have hmade : ∃ text, t.render request = .ok text := ⟨_, rfl⟩
  obtain ⟨text, h⟩ := hmade
  obtain ⟨declarations, hdeclarations, -, hcomment, hpast⟩ := render_comment h
  have htame : IsTame request.comment := by decide
  exact ⟨text, declarations, h, hdeclarations, hcomment.mpr htame, hpast htame⟩

/-- A comment with a line feed in it, one that closes a block comment before its end and one that
does not close it are written as they stand.  A compiler reads a declaration in the first two, and
in the last one finds no end of the comment. -/
theorem render_comment_open :
    let t := build [] [⟨"A".toList, "1".toList⟩]
    let shape : Shape := .slots "keys".toList none
    let declarations :=
      "char *keys[2] = \x7b0\x7d;\n\nvoid init_keys (void) \x7b\n    keys[ 1 ] = \"A\";\n\x7d\n".toList
    let written := fun comment : Text => commentLine comment ++ '\n' :: '\n' :: declarations
    t.declarations shape = .ok declarations
      ∧ (∀ comment ∈ ["made\nint x;".toList, "/* made */ int x;".toList, "/* made".toList],
        t.render ⟨[], shape, comment⟩ = .ok (written comment) ∧ ¬ IsComment (commentLine comment))
      ∧ afterComment? (written "made\nint x;".toList)
        = some ("\nint x;\n\n".toList ++ declarations)
      ∧ afterComment? (written "/* made */ int x;".toList)
        = some (" int x;\n\n".toList ++ declarations)
      ∧ afterComment? (written "/* made".toList) = none := by
  decide

end Table

end NameTables
