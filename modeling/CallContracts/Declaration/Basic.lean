import CallContracts.Condition
import CallContracts.Scope

set_option autoImplicit false

namespace CallContracts

-- In a union the member `none` stands for absence. In a collection the first entry of a container type counts.
inductive Declaration where
  | exact (type : Ty)
  | union (members : List (Option Declaration))
  | absent
  | collection (entries : List (Ty × Declaration))
  | condition (c : Condition)
  | reference (r : Reference)

namespace Declaration

def optional (d : Declaration) : Declaration := .union [some d, none]

def collectionOf (container : Ty) (element : Declaration) : Declaration := .collection [(container, element)]

def ofMembers : List Declaration → Declaration
  | [] => .absent
  | [d] => d
  | ds => .union (ds.map some)

def stripAbsence : Declaration → Declaration × Bool
  | .union members =>
      if members.any Option.isNone then (ofMembers (members.filterMap id), true) else (.union members, false)
  | d => (d, false)

mutual

def describe : Declaration → List String
  | .exact type => [type.name]
  | .union members => describeMembers members
  | .absent => ["None"]
  | .collection entries => describeEntries entries
  | .condition c => [c.label]
  | .reference r => [r.name]

def describeMembers : List (Option Declaration) → List String
  | [] => []
  | none :: rest => "None" :: describeMembers rest
  | some d :: rest => d.describe ++ describeMembers rest

def describeEntries : List (Ty × Declaration) → List String
  | [] => []
  | (container, d) :: rest => (container.name ++ "[" ++ Text.joined d.describe ++ "]") :: describeEntries rest

end

end Declaration

end CallContracts
