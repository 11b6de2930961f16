import LookupLog.Files.Access

/-!
# A store of files

The files and directories that exist, by location: the names on the way from the root. A path is
followed name by name (`locate`), each time in a directory that exists. Main statements: reading a
location after it was put gives what was put (`node?_put_self`), and no other location changes
(`node?_put_of_ne`).
-/

namespace LookupLog

/-- A place in the tree of directories: the names on the way from the root. -/
abbrev Location := List Text

/-- The nodes that exist, and the directory that relative paths start from. -/
structure Store where
  current : Location
  nodes : List (Location × Node)

namespace Store

/-! ## 1. Nodes by location -/

/-- An empty working directory below the root. -/
def empty : Store where
  current := ["work".toList]
  nodes := [([], .directory), (["work".toList], .directory)]

/-- What stands at a location. -/
def node? (s : Store) (l : Location) : Option Node :=
  s.nodes.lookup l

/-- The nodes with one put in place: where there was one it is replaced. -/
def putNode (l : Location) (n : Node) : List (Location × Node) → List (Location × Node)
  | [] => [(l, n)]
  | (l', n') :: rest => if l' = l then (l, n) :: rest else (l', n') :: putNode l n rest

/-- The store with a node put at a location. -/
def put (s : Store) (l : Location) (n : Node) : Store :=
  { s with nodes := putNode l n s.nodes }

theorem lookup_putNode (l l' : Location) (n : Node) (nodes : List (Location × Node)) :
    (putNode l n nodes).lookup l' = if l' = l then some n else nodes.lookup l' := by
  induction nodes with
  | nil =>
    by_cases h : l' = l
    · simp [putNode, h]
    · have hb : (l' == l) = false := by simpa using h
      simp [putNode, List.lookup_cons, h, hb]
  | cons p rest ih =>
    obtain ⟨k, m⟩ := p
    by_cases hk : k = l
    · subst hk
      by_cases h : l' = k
      · simp [putNode, h]
      · have hb : (l' == k) = false := by simpa using h
        simp [putNode, List.lookup_cons, h, hb]
    · by_cases h : l' = k
      · subst h
        simp [putNode, hk]
      · have hb : (l' == k) = false := by simpa using h
        simp [putNode, hk, List.lookup_cons, hb, ih]

@[simp] theorem node?_put_self (s : Store) (l : Location) (n : Node) :
    (s.put l n).node? l = some n := by
  simp [node?, put, lookup_putNode]

theorem node?_put_of_ne (s : Store) {l l' : Location} (n : Node) (h : l' ≠ l) :
    (s.put l n).node? l' = s.node? l' := by
  simp [node?, put, lookup_putNode, h]

@[simp] theorem current_put (s : Store) (l : Location) (n : Node) :
    (s.put l n).current = s.current := rfl

/-- Putting twice at one location is putting the second node. -/
@[simp] theorem put_put (s : Store) (l : Location) (n n' : Node) :
    (s.put l n).put l n' = s.put l n' := by
  have h : ∀ nodes : List (Location × Node),
      putNode l n' (putNode l n nodes) = putNode l n' nodes := by
    intro nodes
    induction nodes with
    | nil => simp [putNode]
    | cons p rest ih =>
      obtain ⟨k, m⟩ := p
      by_cases hk : k = l <;> simp [putNode, hk, ih]
  simp [put, h]

/-! ## 2. Paths -/

/-- The longest path, in bytes, that the operating system takes. -/
def maxPathLength : Nat := 4095

/-- The longest name, in bytes, that a directory holds. -/
def maxNameLength : Nat := 255

/-- The names in a path, between its slashes. -/
def pathNames (path : Text) : List Text :=
  (path.splitOn '/').filter (· ≠ [])

/-- Ends in a slash, so that it can only name a directory. -/
def NamesDirectory (path : Text) : Prop :=
  path.getLast? = some '/'

instance (path : Text) : Decidable (NamesDirectory path) :=
  inferInstanceAs (Decidable (path.getLast? = some '/'))

/-- The location that a name leads to from a location, which has to be a directory. -/
def enter (s : Store) (l : Location) (name : Text) : Except FileError Location :=
  match s.node? l with
  | none => .error .notFound
  | some (.file _) => .error .notADirectory
  | some .directory =>
    if name = ['.'] then .ok l
    else if name = ['.', '.'] then .ok l.dropLast
    else if maxNameLength < (Utf8.encode name).length then .error .nameTooLong
    else .ok (l ++ [name])

/-- Where a path leads; nothing needs to stand there yet. -/
def locate (s : Store) (path : Text) : Except FileError Location :=
  if '\x00' ∈ path then .error .nullInPath
  else if path = [] then .error .notFound
  else if maxPathLength < (Utf8.encode path).length then .error .nameTooLong
  else (pathNames path).foldlM s.enter (if path.head? = some '/' then [] else s.current)

/-! ## 3. Operations -/

/-- Opens what stands at a path. -/
def openNode (s : Store) (path : Text) : Except FileError Node :=
  match s.locate path with
  | .error e => .error e
  | .ok l =>
    match s.node? l with
    | none => .error .notFound
    | some .directory => .ok .directory
    | some (.file content) =>
      if NamesDirectory path then .error .notADirectory else .ok (.file content)

/-- Creates or replaces the file at a path; its directory has to exist. There is room for any
    content. -/
def create (s : Store) (path : Text) (content : Bytes) : Except FileError Store :=
  match s.locate path with
  | .error e => .error e
  | .ok l =>
    if NamesDirectory path ∨ s.node? l = some .directory then .error .isADirectory
    else .ok (s.put l (.file content))

/-- What creating a file takes, and what it does. -/
theorem create_eq_ok_iff {s s' : Store} {path : Text} {content : Bytes} :
    s.create path content = .ok s' ↔
      ∃ l, s.locate path = .ok l ∧ ¬NamesDirectory path ∧ s.node? l ≠ some .directory ∧
        s' = s.put l (.file content) := by
  unfold create
  constructor
  · intro h
    split at h
    · cases h
    · rename_i l hl
      split at h
      · cases h
      · rename_i hn
        cases h
        exact ⟨l, hl, fun hp => hn (Or.inl hp), fun hd => hn (Or.inr hd), rfl⟩
  · intro h
    obtain ⟨l, hl, hp, hd, rfl⟩ := h
    simp only [hl, hp, hd, or_self, if_false]

/-- Puts a node at a path below the working directory, with the directories on the way to it. -/
def place (s : Store) (path : Text) (node : Node) : Store :=
  let names := pathNames path
  let ways := (List.range names.length).drop 1
  let prepared := ways.foldl (fun s n => s.put (s.current ++ names.take n) .directory) s
  prepared.put (s.current ++ names) node

end Store

end LookupLog
