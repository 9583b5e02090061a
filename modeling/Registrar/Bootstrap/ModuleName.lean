/-!
# Module names

Names of modules: parts with points between them. A relative name starts with points and is
resolved against a package, one point for the package itself and one more for each parent.
-/

namespace Registrar.ModuleName

/-- The parts between the points of a name. -/
def parts : List Char → List (List Char)
  | [] => [[]]
  | c :: rest =>
    if c = '.' then [] :: parts rest
    else match parts rest with
      | [] => [[c]]
      | part :: more => (c :: part) :: more

/-- The name of parts. -/
def ofParts : List (List Char) → List Char
  | [] => []
  | [part] => part
  | part :: more => part ++ '.' :: ofParts more

theorem parts_ne_nil (name : List Char) : parts name ≠ [] := by
  cases name with
  | nil => simp [parts]
  | cons c rest =>
    simp only [parts]
    split
    · simp
    · split <;> simp

theorem ofParts_parts (name : List Char) : ofParts (parts name) = name := by
  induction name with
  | nil => rfl
  | cons c rest ih =>
    simp only [parts]
    split
    · rename_i h
      cases hp : parts rest with
      | nil => exact absurd hp (parts_ne_nil rest)
      | cons part more => simp [ofParts, ← hp, ih, h]
    · cases hp : parts rest with
      | nil => exact absurd hp (parts_ne_nil rest)
      | cons part more =>
        rw [hp] at ih
        cases more <;> simp_all [ofParts]

/-- Whether a name is relative. -/
def isRelative (name : String) : Bool := name.toList.head? == some '.'

/-- Why a relative name cannot be resolved. -/
inductive Unresolved
  /-- There is no package to start from. -/
  | noAnchor
  /-- The name leaves the outermost package. -/
  | beyond
  deriving DecidableEq

/-- The absolute name of a module, given the package relative names start from. -/
def resolve (anchor : Option String) (name : String) : Except Unresolved String :=
  if !isRelative name then .ok name
  else match anchor with
    | none => .error .noAnchor
    | some package =>
      if package.isEmpty then .error .noAnchor
      else
        let level := (name.toList.takeWhile (· == '.')).length
        let below := name.toList.dropWhile (· == '.')
        let above := parts package.toList
        if above.length < level then .error .beyond
        else
          let base := ofParts (above.take (above.length + 1 - level))
          .ok (String.ofList (if below.isEmpty then base else base ++ '.' :: below))

/-- The beginnings of a list that are not empty, shortest first. -/
def beginnings {α : Type} : List α → List (List α)
  | [] => []
  | a :: rest => [a] :: (beginnings rest).map (a :: ·)

/-- The beginnings of a name that end before a point, shortest first, and the name itself. -/
def lineage (name : String) : List String :=
  (beginnings (parts name.toList)).map fun parts => String.ofList (ofParts parts)

end Registrar.ModuleName
