import JsonShape.Command.Disk
import JsonShape.Proofs.Outcomes
import Mathlib.Data.List.DropRight

/-!
# Written files

Putting a file in a place where no folder stands makes folders larger and takes none away, so every
path that led somewhere leads there still. The path of a written file leads to the place where it
was put, and reading it gives the content that was written.
-/
namespace JsonShape

namespace FileTree

/-- Every folder of a tree is a folder of another, with all its names. -/
def Grows (tree grown : FileTree) : Prop :=
  ∀ place entries, tree.at? place = some (.folder entries) →
    ∃ others, grown.at? place = some (.folder others) ∧
      ∀ name, (Fields.get? name entries).isSome → (Fields.get? name others).isSome

/-- No folder stands in a place. -/
def NoFolder (tree : FileTree) (place : List String) : Prop :=
  ∀ entries, tree.at? place ≠ some (.folder entries)

/-- At the empty path is the tree itself. -/
@[simp] theorem at?_nil (tree : FileTree) : tree.at? [] = some tree := rfl

/-- A path into a folder goes on in the entry of its first name. -/
theorem at?_cons (name : String) (rest : List String) (entries : List (String × FileTree)) :
    (folder entries).at? (name :: rest) = (Fields.get? name entries).bind (at? rest) := rfl

/-- Names lead on from where the first of them lead. -/
theorem at?_append (tree : FileTree) (place further : List String) :
    tree.at? (place ++ further) = (tree.at? place).bind (at? further) := by
  induction place generalizing tree with
  | nil => rfl
  | cons name rest ih =>
    cases tree with
    | file content => rfl
    | folder entries =>
      rw [List.cons_append, at?_cons, at?_cons]
      cases Fields.get? name entries with
      | none => rfl
      | some inner => exact ih inner

/-- What was put in a folder is there. -/
theorem at?_put {tree root : FileTree} {place : List String} {name : String}
    {entries : List (String × FileTree)} (there : root.at? place = some (.folder entries)) :
    (put tree (place ++ [name]) root).at? (place ++ [name]) = some tree := by
  induction place generalizing root with
  | nil =>
    obtain rfl := Option.some.inj there
    simp [put, at?_cons, Fields.get?_insert]
  | cons first rest ih =>
    cases root with
    | file content => cases there
    | folder others =>
      rw [at?_cons] at there
      obtain ⟨inner, found, below⟩ := Option.bind_eq_some_iff.mp there
      rw [List.cons_append, put, at?_cons, Fields.get?_insert, if_pos rfl, found]
      exact ih below

/-- Putting a tree where no folder stands takes no folder away. -/
theorem grows_put {tree root : FileTree} {place : List String} (free : root.NoFolder place) :
    root.Grows (put tree place root) := by
  induction place generalizing root with
  | nil =>
    cases root with
    | file content =>
      intro place entries there
      cases place <;> cases there
    | folder entries => exact absurd rfl (free entries)
  | cons name rest ih =>
    cases root with
    | file content =>
      intro place entries there
      exact ⟨entries, there, fun _ => id⟩
    | folder entries =>
      intro place others there
      cases place with
      | nil =>
        obtain rfl := FileTree.folder.inj (Option.some.inj there)
        refine ⟨_, rfl, fun other has => ?_⟩
        rw [Fields.get?_insert]
        split
        · rfl
        · exact has
      | cons first more =>
        rw [at?_cons] at there
        obtain ⟨inner, found, below⟩ := Option.bind_eq_some_iff.mp there
        rw [put, at?_cons, Fields.get?_insert]
        by_cases same : name = first
        · subst same
          rw [if_pos rfl, found]
          have inside : inner.NoFolder rest := by
            intro entries here
            exact free entries (by rw [at?_cons, found]; exact here)
          exact ih inside more others below
        · rw [if_neg same, found]
          exact ⟨others, below, fun _ => id⟩

end FileTree

namespace Disk

open FileTree (Grows)

/-- Names lead on from where the first of them lead. -/
theorem walk_append (root : FileTree) (place names further : List String) :
    walk root place (names ++ further) =
      walk root place names >>= fun middle => walk root middle further := by
  induction names generalizing place with
  | nil => rfl
  | cons name rest ih =>
    rw [List.cons_append, walk, walk]
    split
    · split
      · exact ih place
      · split
        · exact ih _
        · split
          · exact ih _
          · rfl
    · rfl
    · rfl

/-- Names that lead somewhere lead there in a grown tree. -/
theorem walk_grows {root grown : FileTree} (grows : root.Grows grown)
    {place names final : List String} (leads : walk root place names = .ok final) :
    walk grown place names = .ok final := by
  induction names generalizing place with
  | nil => exact leads
  | cons name rest ih =>
    rw [walk] at leads ⊢
    split at leads
    · rename_i entries here
      obtain ⟨others, also, kept⟩ := grows place entries here
      rw [also]
      simp only
      split at leads
      · rename_i stays
        rw [if_pos stays]
        exact ih leads
      · rename_i moves
        rw [if_neg moves]
        split at leads
        · rename_i up
          rw [if_pos up]
          exact ih leads
        · rename_i down
          rw [if_neg down]
          split at leads
          · rename_i has
            rw [if_pos (kept name has)]
            exact ih leads
          · cases leads
    · cases leads
    · cases leads

/-- A name that stands for itself leads into the folder that has it. -/
theorem walk_name {root : FileTree} {place : List String} {name : String}
    {entries : List (String × FileTree)} (here : root.at? place = some (.folder entries))
    (has : (Fields.get? name entries).isSome) (named : name ≠ "" ∧ name ≠ "." ∧ name ≠ "..") :
    walk root place [name] = .ok (place ++ [name]) := by
  simp [walk, here, has, named]

/-- Names that lead to a free name in a folder lead to what is put there. -/
theorem walk_put {tree root : FileTree} {start above place : List String} {name : String}
    {entries : List (String × FileTree)} (leads : walk root start above = .ok place)
    (here : root.at? place = some (.folder entries)) (free : root.NoFolder (place ++ [name]))
    (named : name ≠ "" ∧ name ≠ "." ∧ name ≠ "..") :
    walk (FileTree.put tree (place ++ [name]) root) start (above ++ [name]) =
      .ok (place ++ [name]) := by
  have grows : root.Grows (FileTree.put tree (place ++ [name]) root) := FileTree.grows_put free
  have stands : (FileTree.put tree (place ++ [name]) root).at? (place ++ [name]) = some tree :=
    FileTree.at?_put here
  obtain ⟨others, also, _⟩ := grows place entries here
  have has : (Fields.get? name others).isSome := by
    rw [FileTree.at?_append, also, Option.bind_some, FileTree.at?_cons] at stands
    obtain ⟨inner, held, _⟩ := Option.bind_eq_some_iff.mp stands
    rw [held]
    rfl
  rw [walk_append, walk_grows grows leads]
  exact walk_name also has named

/-- On a disk where one works at the root, a path leads where its names lead from there. -/
theorem place_at_root (root : FileTree) {path : String} {names : List String}
    (nonempty : path.isEmpty = false) (parts : Files.components path = names) :
    Disk.place ⟨root, []⟩ path = walk root [] names := by
  rw [place, nonempty, parts, start, ite_self]
  rfl

/-- A path finds what stands at the place it leads to. -/
theorem find_of_place {disk : Disk} {path : String} {place : List String} {tree : FileTree}
    (leads : disk.place path = .ok place) (here : disk.root.at? place = some tree) :
    disk.find path = .ok tree := by
  rw [find, leads]
  simp only [bind, Except.bind, here]

/-- A path that leads to a file reads it. -/
theorem read_of_place {disk : Disk} {path : String} {place : List String} {content : ByteArray}
    (leads : disk.place path = .ok place) (here : disk.root.at? place = some (.file content)) :
    disk.read path = .ok content := by
  rw [read, find_of_place leads here]
  rfl

/-- A path that leads to a folder lists its names in order. -/
theorem names_of_place {disk : Disk} {path : String} {place : List String}
    {entries : List (String × FileTree)} (leads : disk.place path = .ok place)
    (here : disk.root.at? place = some (.folder entries)) :
    disk.names path =
      .ok ((Fields.names entries).mergeSort fun left right => left ≤ right) := by
  rw [names, find_of_place leads here]
  rfl

/-- A path whose last name is free in a folder to which the names before it lead. -/
structure Free (disk : Disk) (path : String) (vacancy : Vacancy) : Prop where
  /-- The path is not empty. -/
  nonempty : path.isEmpty = false
  /-- The names before the last one lead to a folder. -/
  leads : ∃ above entries, Files.components path = above ++ [vacancy.name] ∧
    walk disk.root (disk.start path) above = .ok vacancy.folder ∧
    disk.root.at? vacancy.folder = some (.folder entries)
  /-- The last name stands for itself. -/
  named : vacancy.name ≠ "" ∧ vacancy.name ≠ "." ∧ vacancy.name ≠ ".."

/-- Names without the empty ones at their end end in no empty name. -/
theorem ne_empty_of_getLast? {names : List String} {name : String}
    (last : (names.rdropWhile (· = "")).getLast? = some name) : name ≠ "" := by
  have some : names.rdropWhile (· = "") ≠ [] := by
    intro none
    rw [none] at last
    cases last
  have notBlank := List.rdropWhile_last_not (fun name => decide (name = "")) names some
  rw [List.getLast?_eq_some_getLast some] at last
  rw [Option.some.inj last] at notBlank
  exact fun blank => notBlank (decide_eq_true blank)

/-- A vacancy that does not insist on a folder is that of the path's last name. -/
theorem free_of_vacancy {disk : Disk} {path : String} {vacancy : Vacancy}
    (found : disk.vacancy path = .ok (some vacancy)) (file : vacancy.folderOnly = false) :
    disk.Free path vacancy := by
  rw [Disk.vacancy] at found
  split at found
  · cases found
  · rename_i nonempty
    let all := Files.components path
    let kept := all.rdropWhile (· = "")
    dsimp only at found
    split at found
    · cases found
    · rename_i name last
      change kept.getLast? = some name at last
      obtain ⟨folder, leads, inside⟩ := bind_eq_ok.mp found
      split at inside
      · rename_i entries here
        split at inside
        · cases inside
        · rename_i named
          obtain rfl := Option.some.inj (Except.ok.inj inside)
          -- A path that does not insist on a folder ends in no empty name.
          have whole : kept = all := by
            refine (List.rdropWhile_prefix _ _).eq_of_length_le ?_
            exact Nat.le_of_not_lt (of_decide_eq_false file)
          have split : kept.dropLast ++ [name] = kept :=
            List.dropLast_append_getLast? name last
          have nonblank : name ≠ "" := ne_empty_of_getLast? last
          refine ⟨Bool.eq_false_iff.mpr nonempty, ⟨kept.dropLast, entries, ?_, leads, here⟩, ?_⟩
          · exact (split.trans whole).symm
          · simpa [nonblank] using named
      · cases inside
      · cases inside

/-- A file that was written is read back. -/
theorem read_of_write {disk after : Disk} {path : String} {content : ByteArray}
    (written : disk.write path content = .ok after) : after.read path = .ok content := by
  obtain ⟨vacant, found, put⟩ := bind_eq_ok.mp written
  cases vacant with
  | none => cases put
  | some vacancy =>
    simp only at put
    split at put
    · cases put
    · rename_i free
      split at put
      · cases put
      · rename_i file
        obtain rfl := Except.ok.inj put
        obtain ⟨nonempty, ⟨above, entries, names, leads, here⟩, named⟩ :=
          free_of_vacancy found (Bool.eq_false_iff.mpr file)
        refine read_of_place ?_ (FileTree.at?_put here)
        rw [Disk.place, nonempty, names]
        exact walk_put leads here free named

end Disk

/-- A file that was saved, with the folders above it, is read back. -/
theorem Command.read_of_save {disk after : Disk} {path content : String}
    (saved : save disk path content = .ok after) : after.read path = .ok content.toUTF8 := by
  rw [save] at saved
  split at saved
  · exact Disk.read_of_write (mapError_eq_ok.mp saved)
  · obtain ⟨below, _, written⟩ := bind_eq_ok.mp saved
    exact Disk.read_of_write (mapError_eq_ok.mp written)

end JsonShape
