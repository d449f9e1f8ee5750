import VmCell.Encoding.Segments

/-! A file tree with symbolic links, and what its system calls make of a path.

A path is given by the segments of its text: empty segments and `.` stay in a directory,
`..` leaves one, a link is replaced by the segments of its target. Places are found from
the root, so that a place is known by the names on the way to it.
-/

set_option autoImplicit false
namespace FileTree

open Segments (IsName)

abbrev Name := List Char

/-- The text of a path, without the separator that makes it absolute. -/
abbrev Path := List Name

inductive Node where
  | file (content : List UInt8)
  | directory (entries : List (Name × Nat))
  | link (fromRoot : Bool) (target : Path)
  | special

/-- The nodes by their numbers; a node may have several names. -/
structure Tree where
  root : Nat
  node : Nat → Node
  searchable : Nat → Bool
  readable : Nat → Bool

/-- The way from the root to a place, innermost first. -/
abbrev Trail := List (Name × Nat)

section Walking
variable (tree : Tree)

def here : Trail → Nat
  | [] => tree.root
  | (_, number) :: _ => number

def isDirectory (number : Nat) : Bool :=
  match tree.node number with
  | .directory _ => true
  | _ => false

def isLink (number : Nat) : Bool :=
  match tree.node number with
  | .link .. => true
  | _ => false

def entry (number : Nat) (name : Name) : Option Nat :=
  match tree.node number with
  | .directory entries => if tree.searchable number then entries.lookup name else none
  | _ => none

/-- A segment that stays where it is. -/
def stays (segment : Name) : Bool := segment = [] || segment = ['.']

/-- One walk along the segments of a path; `chase` goes on behind a link. -/
def walkWith (follow : Bool) (chase : Path → Trail → Option Trail) : Path → Trail → Option Trail
  | [], trail => some trail
  | segment :: rest, trail =>
      if stays segment then
        if isDirectory tree (here tree trail) then walkWith follow chase rest trail else none
      else if segment = ['.', '.'] then
        if isDirectory tree (here tree trail) then walkWith follow chase rest trail.tail else none
      else
        match entry tree (here tree trail) segment with
        | none => none
        | some number =>
            match tree.node number with
            | .link fromRoot target =>
                -- only the last segment of a path may stand for the link itself
                if follow || !rest.isEmpty then
                  chase (target ++ rest) (if fromRoot then [] else trail)
                else some ((segment, number) :: trail)
            | _ => walkWith follow chase rest ((segment, number) :: trail)

/-- Path resolution with a number of links that it may follow. -/
def walk (follow : Bool) : Nat → Path → Trail → Option Trail
  | 0 => walkWith tree follow fun _ _ => none
  | links + 1 => walkWith tree follow (walk follow links)

def names (trail : Trail) : Path := (trail.map Prod.fst).reverse

/-- `realpath`. -/
def canonicalize (links : Nat) (path : Path) : Option Path :=
  (walk tree true links path []).map names

/-- `stat`: the number of what a path leads to. -/
def stat (links : Nat) (path : Path) : Option Nat :=
  (walk tree true links path []).map (here tree)

/-- `lstat`: a link at the end of a path stands for itself. -/
def lstat (links : Nat) (path : Path) : Option Nat :=
  (walk tree false links path []).map (here tree)

/-- `open` for reading, with `O_NOFOLLOW`. -/
def openNoFollow (links : Nat) (path : Path) : Option Nat := do
  let number ← lstat tree links path
  if isLink tree number || !tree.readable number then none else some number

end Walking

section Paths

/-- The components of a path are its segments without those that stay where they are. -/
def components (path : Path) : Path := path.filter fun segment => !stays segment

/-- `Path::starts_with`. -/
def startsWith (path base : Path) : Bool := (components base).isPrefixOf (components path)

/-- The parents of a path given innermost first, each without the segments behind its
last component. -/
def trimmedAncestors : Path → List Path
  | [] => [[]]
  | segment :: outer =>
      if stays segment then trimmedAncestors outer
      else (segment :: outer).reverse :: trimmedAncestors outer

/-- `Path::ancestors`, which starts with the path as it is written. -/
def ancestors (path : Path) : List Path := path :: (trimmedAncestors path.reverse).tail

end Paths

section Places
variable {tree : Tree} {follow : Bool} {chase : Path → Trail → Option Trail}
  {links number : Nat} {path rest : Path} {trail last : Trail} {name segment : Name}

/-- A way that enters a directory at every step. -/
def Rooted (tree : Tree) : Trail → Prop
  | [] => True
  | (name, number) :: outer =>
      IsName name ∧ entry tree (here tree outer) name = some number ∧ Rooted tree outer

/-- The number behind names of which none is that of a link, except perhaps the last. -/
def descend (tree : Tree) (number : Nat) : Path → Option Nat
  | [] => some number
  | name :: rest => (entry tree number name).bind fun inner => descend tree inner rest

/-- A file below a base, reached without a link on the way. -/
structure OrdinaryFile (tree : Tree) (base path : Path) (content : List UInt8) : Prop where
  inside : base <+: path
  proper : ∀ name ∈ path, IsName name
  file : ∃ number, descend tree tree.root path = some number ∧ tree.node number = .file content

theorem isDirectory_of_entry {inner : Nat} (found : entry tree number name = some inner) :
    isDirectory tree number = true := by
  unfold entry at found
  unfold isDirectory
  split at found
  · rfl
  · cases found

theorem isLink_of_directory (directory : isDirectory tree number = true) :
    isLink tree number = false := by
  unfold isDirectory at directory
  unfold isLink
  split at directory
  · rename_i same
    rw [same]
  · cases directory

@[simp] theorem names_nil : names [] = [] := rfl

@[simp] theorem names_cons : names ((name, number) :: trail) = names trail ++ [name] := by
  simp [names]

theorem isName_iff : IsName segment ↔ stays segment = false ∧ segment ≠ ['.', '.'] := by
  unfold stays
  simp only [IsName, Bool.or_eq_false_iff, decide_eq_false_iff_not, and_assoc, ne_eq]

theorem names_rooted (rooted : Rooted tree trail) : ∀ name ∈ names trail, IsName name := by
  induction trail with
  | nil => simp
  | cons step outer ih =>
      obtain ⟨isName, -, below⟩ := rooted
      intro name member
      rw [names_cons] at member
      rcases List.mem_append.mp member with inside | same
      · exact ih below name inside
      · rw [List.mem_singleton.mp same]
        exact isName

theorem walk_eq_walkWith (tree : Tree) (follow : Bool) (links : Nat) :
    ∃ chase, walk tree follow links = walkWith tree follow chase := by
  cases links with
  | zero => exact ⟨_, rfl⟩
  | succ links => exact ⟨_, rfl⟩

theorem walkWith_stays (still : stays segment = true)
    (directory : isDirectory tree (here tree trail) = true) :
    walkWith tree follow chase (segment :: rest) trail = walkWith tree follow chase rest trail := by
  rw [walkWith, if_pos still, if_pos directory]

theorem walkWith_leaves (directory : isDirectory tree (here tree trail) = true) :
    walkWith tree follow chase (['.', '.'] :: rest) trail =
      walkWith tree follow chase rest trail.tail := by
  rw [walkWith, if_neg (by decide), if_pos rfl, if_pos directory]

theorem walkWith_enters (isName : IsName segment)
    (found : entry tree (here tree trail) segment = some number)
    (plain : isLink tree number = false) :
    walkWith tree follow chase (segment :: rest) trail =
      walkWith tree follow chase rest ((segment, number) :: trail) := by
  obtain ⟨moves, proper⟩ := isName_iff.mp isName
  rw [walkWith, if_neg (by simp [moves]), if_neg proper, found]
  unfold isLink at plain
  cases same : tree.node number with
  | link => simp [same] at plain
  | file | directory | special => simp only [same]

theorem walkWith_stops (isName : IsName segment)
    (found : entry tree (here tree trail) segment = some number) :
    walkWith tree false chase [segment] trail = some ((segment, number) :: trail) := by
  obtain ⟨moves, proper⟩ := isName_iff.mp isName
  rw [walkWith, if_neg (by simp [moves]), if_neg proper, found]
  cases same : tree.node number with
  | link | file | directory | special => simp [same, walkWith]

/-- How a walk that succeeds takes its first segment. -/
inductive Advances (tree : Tree) (follow : Bool) (chase : Path → Trail → Option Trail)
    (segment : Name) (rest : Path) (trail last : Trail) : Prop where
  | stays (still : stays segment = true) (directory : isDirectory tree (here tree trail) = true)
      (goes : walkWith tree follow chase rest trail = some last)
  | leaves (up : segment = ['.', '.']) (directory : isDirectory tree (here tree trail) = true)
      (goes : walkWith tree follow chase rest trail.tail = some last)
  | enters (number : Nat) (isName : IsName segment)
      (found : entry tree (here tree trail) segment = some number)
      (plain : isLink tree number = false)
      (goes : walkWith tree follow chase rest ((segment, number) :: trail) = some last)
  | stops (number : Nat) (isName : IsName segment)
      (found : entry tree (here tree trail) segment = some number) (isLast : rest = [])
      (unfollowed : follow = false) (same : last = (segment, number) :: trail)
  | chases (number : Nat) (fromRoot : Bool) (target : Path) (isName : IsName segment)
      (found : entry tree (here tree trail) segment = some number)
      (link : tree.node number = .link fromRoot target) (followed : follow = true ∨ rest ≠ [])
      (goes : chase (target ++ rest) (if fromRoot then [] else trail) = some last)

theorem walkWith_advances (walks : walkWith tree follow chase (segment :: rest) trail = some last) :
    Advances tree follow chase segment rest trail last := by
  rw [walkWith] at walks
  by_cases still : stays segment = true
  · rw [if_pos still] at walks
    split at walks
    · rename_i directory
      exact .stays still directory walks
    · cases walks
  rw [if_neg still] at walks
  by_cases up : segment = ['.', '.']
  · rw [if_pos up] at walks
    split at walks
    · rename_i directory
      exact .leaves up directory walks
    · cases walks
  rw [if_neg up] at walks
  have isName : IsName segment := isName_iff.mpr ⟨by simpa using still, up⟩
  cases found : entry tree (here tree trail) segment with
  | none => simp [found] at walks
  | some number =>
      simp only [found] at walks
      cases node : tree.node number with
      | link fromRoot target =>
          simp only [node] at walks
          split at walks
          · rename_i followed
            refine .chases number fromRoot target isName found node ?_ walks
            simpa using followed
          · rename_i unfollowed
            simp only [Bool.or_eq_true, not_or, Bool.not_eq_true, Bool.not_eq_false',
              List.isEmpty_iff] at unfollowed
            exact .stops number isName found unfollowed.2 unfollowed.1 (Option.some.inj walks).symm
      | file | directory | special =>
          simp only [node] at walks
          exact .enters number isName found (by simp [isLink, node]) walks

theorem walkWith_rooted (chased : ∀ path trail last, Rooted tree trail →
      chase path trail = some last → Rooted tree last) (rooted : Rooted tree trail)
    (walks : walkWith tree follow chase path trail = some last) : Rooted tree last := by
  induction path generalizing trail with
  | nil =>
      obtain rfl := Option.some.inj walks
      exact rooted
  | cons segment rest ih =>
      cases walkWith_advances walks with
      | stays _ _ goes => exact ih rooted goes
      | leaves _ _ goes =>
          refine ih ?_ goes
          cases trail with
          | nil => trivial
          | cons step outer => exact rooted.2.2
      | enters number isName found _ goes =>
          exact ih (show Rooted tree ((segment, number) :: trail) from ⟨isName, found, rooted⟩) goes
      | stops number isName found _ _ same =>
          rw [same]
          exact ⟨isName, found, rooted⟩
      | chases number fromRoot target _ _ _ _ goes =>
          refine chased _ _ _ ?_ goes
          cases fromRoot with
          | true => trivial
          | false => exact rooted

/-- Wherever a walk leads, it is found from the root by entering directories only. -/
theorem walk_rooted (rooted : Rooted tree trail)
    (walks : walk tree follow links path trail = some last) : Rooted tree last := by
  induction links generalizing path trail last with
  | zero =>
      refine walkWith_rooted (fun _ _ _ _ impossible => ?_) rooted walks
      cases impossible
  | succ links ih => exact walkWith_rooted (fun _ _ _ below goes => ih below goes) rooted walks

theorem walk_from_root (walks : walk tree follow links path [] = some last) : Rooted tree last :=
  walk_rooted (show Rooted tree [] from trivial) walks

/-- The names on the way to a place lead there. -/
theorem walkWith_names (rooted : Rooted tree trail)
    (plain : isLink tree (here tree trail) = false ∨ trail = []) :
    walkWith tree follow chase (names trail ++ rest) [] = walkWith tree follow chase rest trail := by
  induction trail generalizing rest with
  | nil => rfl
  | cons step outer ih =>
      obtain ⟨name, number⟩ := step
      obtain ⟨isName, found, below⟩ := rooted
      have through := isLink_of_directory (isDirectory_of_entry found)
      rw [names_cons, List.append_assoc, ih below (.inl through), List.singleton_append,
        walkWith_enters isName found (plain.resolve_right (List.cons_ne_nil _ _))]

theorem lstat_names (rooted : Rooted tree trail) :
    lstat tree links (names trail) = some (here tree trail) := by
  unfold lstat
  obtain ⟨chase, same⟩ := walk_eq_walkWith tree false links
  rw [same]
  cases trail with
  | nil => rfl
  | cons step outer =>
      obtain ⟨name, number⟩ := step
      obtain ⟨isName, found, below⟩ := rooted
      have through := isLink_of_directory (isDirectory_of_entry found)
      rw [names_cons, walkWith_names below (.inl through), walkWith_stops isName found]
      rfl

theorem descend_append {first : Path} :
    descend tree number (first ++ rest) =
      (descend tree number first).bind fun inner => descend tree inner rest := by
  induction first generalizing number with
  | nil => rfl
  | cons name first ih =>
      rw [List.cons_append, descend, descend]
      cases entry tree number name with
      | none => rfl
      | some inner => exact ih

theorem descend_names (rooted : Rooted tree trail) :
    descend tree tree.root (names trail) = some (here tree trail) := by
  induction trail with
  | nil => rfl
  | cons step outer ih =>
      obtain ⟨name, number⟩ := step
      obtain ⟨-, found, below⟩ := rooted
      rw [names_cons, descend_append, ih below, Option.bind_some, descend, found]
      rfl

theorem walkWith_part {first : Path} (chased : ∀ path more trail last,
      chase (path ++ more) trail = some last → ∃ middle, chase path trail = some middle)
    (walks : walkWith tree true chase (first ++ rest) trail = some last) :
    ∃ middle, walkWith tree true chase first trail = some middle := by
  induction first generalizing trail with
  | nil => exact ⟨trail, rfl⟩
  | cons segment first ih =>
      cases walkWith_advances walks with
      | stays still directory goes =>
          rw [walkWith_stays still directory]
          exact ih goes
      | leaves up directory goes =>
          rw [up, walkWith_leaves directory]
          exact ih goes
      | enters number isName found plain goes =>
          rw [walkWith_enters isName found plain]
          exact ih goes
      | stops _ _ _ _ unfollowed _ => cases unfollowed
      | chases number fromRoot target isName found link _ goes =>
          rw [show first.append rest = first ++ rest from rfl, ← List.append_assoc] at goes
          obtain ⟨middle, walked⟩ := chased _ _ _ _ goes
          obtain ⟨moves, proper⟩ := isName_iff.mp isName
          refine ⟨middle, ?_⟩
          rw [walkWith, if_neg (by simp [moves]), if_neg proper]
          simp only [found, link]
          exact walked

/-- What leads somewhere leads somewhere at each part of the way. -/
theorem walk_part {first : Path} (walks : walk tree true links (first ++ rest) trail = some last) :
    ∃ middle, walk tree true links first trail = some middle := by
  induction links generalizing first rest trail last with
  | zero =>
      refine walkWith_part (fun _ _ _ _ impossible => ?_) walks
      cases impossible
  | succ links ih => exact walkWith_part (fun _ _ _ _ goes => ih goes) walks

theorem trimmedAncestors_append {inner outer : Path} (moves : stays segment = false)
    (further : ∃ other ∈ inner, stays other = false) :
    (segment :: outer).reverse ∈ (trimmedAncestors (inner ++ segment :: outer)).tail := by
  have among : ∀ inner : Path,
      (segment :: outer).reverse ∈ trimmedAncestors (inner ++ segment :: outer) := by
    intro inner
    induction inner with
    | nil => simp [trimmedAncestors, moves]
    | cons other inner ih =>
        rw [List.cons_append, trimmedAncestors]
        split
        · exact ih
        · exact List.mem_cons_of_mem _ ih
  induction inner with
  | nil => simp at further
  | cons other inner ih =>
      rw [List.cons_append, trimmedAncestors]
      cases still : stays other with
      | true =>
          rw [if_pos rfl]
          refine ih ?_
          obtain ⟨component, member, moves⟩ := further
          rcases List.mem_cons.mp member with rfl | inside
          · cases still.symm.trans moves
          · exact ⟨component, inside, moves⟩
      | false =>
          rw [if_neg (by simp)]
          exact among inner

theorem mem_ancestors {outer : Path} (moves : stays segment = false)
    (further : rest = [] ∨ ∃ other ∈ rest, stays other = false) :
    outer ++ [segment] ∈ ancestors (outer ++ segment :: rest) := by
  rcases further with rfl | ⟨other, member, component⟩
  · exact List.mem_cons_self
  · refine List.mem_cons_of_mem _ ?_
    have inside := @trimmedAncestors_append segment rest.reverse outer.reverse moves
      ⟨other, List.mem_reverse.mpr member, component⟩
    simpa using inside

theorem isDirectory_of_stays (still : ∀ segment ∈ path, stays segment = true) (more : path ≠ [])
    (walks : walkWith tree follow chase path trail = some last) :
    isDirectory tree (here tree last) = true := by
  induction path generalizing trail with
  | nil => exact absurd rfl more
  | cons segment rest ih =>
      have here : stays segment = true := still segment List.mem_cons_self
      cases walkWith_advances walks with
      | stays _ directory goes =>
          cases rest with
          | nil =>
              obtain rfl := Option.some.inj goes
              exact directory
          | cons other rest =>
              exact ih (fun _ inside => still _ (List.mem_cons_of_mem _ inside)) nofun goes
      | leaves up _ _ =>
          rw [up] at here
          cases here
      | enters _ isName _ _ _ => cases here.symm.trans (isName_iff.mp isName).1
      | stops _ isName _ _ _ _ => cases here.symm.trans (isName_iff.mp isName).1
      | chases _ _ _ isName _ _ _ _ => cases here.symm.trans (isName_iff.mp isName).1

theorem walkWith_ends {front : Path} (still : ∀ segment ∈ path, stays segment = true)
    (more : path ≠ []) (chased : ∀ front trail last, chase (front ++ path) trail = some last →
      isDirectory tree (here tree last) = true)
    (walks : walkWith tree follow chase (front ++ path) trail = some last) :
    isDirectory tree (here tree last) = true := by
  induction front generalizing trail with
  | nil => exact isDirectory_of_stays still more walks
  | cons segment front ih =>
      cases walkWith_advances walks with
      | stays _ _ goes | leaves _ _ goes | enters _ _ _ _ goes => exact ih goes
      | stops _ _ _ isLast _ _ => exact absurd (List.append_eq_nil_iff.mp isLast).2 more
      | chases _ _ target _ _ _ _ goes =>
          rw [show front.append path = front ++ path from rfl, ← List.append_assoc] at goes
          exact chased _ _ _ goes

theorem walk_ends {front : Path} (still : ∀ segment ∈ path, stays segment = true)
    (more : path ≠ []) (walks : walk tree follow links (front ++ path) trail = some last) :
    isDirectory tree (here tree last) = true := by
  induction links generalizing front trail last with
  | zero =>
      refine walkWith_ends still more (fun _ _ _ impossible => ?_) walks
      cases impossible
  | succ links ih => exact walkWith_ends still more (fun _ _ _ goes => ih goes) walks

/-- A walk to something other than a directory on which no part of the way is a link
leads along the components of the path. -/
theorem names_of_unlinked (within : ∀ segment ∈ path, segment ≠ ['.', '.'])
    (unlinked : ∀ part ∈ ancestors path, (stat tree links part).isSome = true →
      ∃ number, lstat tree links part = some number ∧ isLink tree number = false)
    (walks : walk tree true links path [] = some last)
    (ends : isDirectory tree (here tree last) = false) : names last = components path := by
  obtain ⟨chase, chased⟩ := walk_eq_walkWith tree true links
  -- the part of the path that has been walked without a link, and what remains of it
  suffices remaining : ∀ rest first trail, path = first ++ rest → Rooted tree trail →
      names trail = components first →
      (∀ more chase follow, walkWith tree follow chase (first ++ more) [] =
        walkWith tree follow chase more trail) →
      walkWith tree true chase rest trail = some last → names last = components path by
    refine remaining path [] [] rfl trivial rfl (fun _ _ _ => rfl) ?_
    rw [← chased]
    exact walks
  intro rest
  induction rest with
  | nil =>
      intro first trail same _ along _ goes
      obtain rfl := Option.some.inj goes
      rw [along, same, List.append_nil]
  | cons segment rest ih =>
      intro first trail same rooted along walked goes
      have next : path = (first ++ [segment]) ++ rest := by simp [same]
      cases walkWith_advances goes with
      | stays still directory goes =>
          refine ih _ trail next rooted ?_ (fun more chase follow => ?_) goes
          · rw [along, components, components, List.filter_append]
            simp [still]
          · rw [List.append_assoc, walked]
            exact walkWith_stays still directory
      | leaves up _ _ => exact absurd up (within segment (by simp [same]))
      | enters number isName found plain goes =>
          refine ih _ ((segment, number) :: trail) next ⟨isName, found, rooted⟩ ?_
            (fun more chase follow => ?_) goes
          · rw [names_cons, along, components, components, List.filter_append]
            simp [(isName_iff.mp isName).1]
          · rw [List.append_assoc, walked]
            exact walkWith_enters isName found plain
      | stops _ _ _ _ unfollowed _ => cases unfollowed
      | chases number fromRoot target isName found link _ goes =>
          exfalso
          have moves := (isName_iff.mp isName).1
          -- nothing but a directory has segments behind it that stay
          have further : rest = [] ∨ ∃ other ∈ rest, stays other = false := by
            by_contra none
            simp only [not_or, not_exists, not_and, Bool.not_eq_false] at none
            cases ends.symm.trans (walk_ends none.2 none.1 (next ▸ walks))
          obtain ⟨other, own, plain⟩ := unlinked _ (same ▸ mem_ancestors moves further) (by
            obtain ⟨middle, part⟩ := @walk_part tree links rest [] last (first ++ [segment])
              (next ▸ walks)
            rw [stat, part]
            rfl)
          rw [lstat] at own
          obtain ⟨chase', chased'⟩ := walk_eq_walkWith tree false links
          rw [chased', walked, walkWith_stops isName found] at own
          obtain rfl := Option.some.inj own
          simp [isLink, here, link] at plain

end Places

end FileTree
