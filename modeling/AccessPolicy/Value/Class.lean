import AccessPolicy.Value

/-!
The classes of values: which of them stand above which, and what makes the values of a class containers that can
be filtered.
-/

namespace AccessPolicy

/-- The classes that are the same in every program, as far as containers have to do with them. -/
inductive KnownClass where
  | object
  | noneType
  | int
  | bool
  | str
  | bytes
  | byteArray
  | memoryView
  | iterable
  | iterator
  | reversible
  | sized
  | container
  | collection
  | sequence
  | mutableSequence
  | byteString
  | mapping
  | mutableMapping
  | abstractSet
  | mutableSet
  | mappingView
  | keysView
  | valuesView
  | itemsView
  | list
  | tuple
  | range
  | deque
  | userList
  | userString
  | array
  | dict
  | orderedDict
  | defaultDict
  | counter
  | chainMap
  | userDict
  | mappingProxy
  | dictKeys
  | dictValues
  | dictItems
  | set
  | frozenSet
  deriving DecidableEq, Repr

namespace KnownClass

def collections : List KnownClass := [.collection, .sized, .iterable, .container, .object]

def sequences : List KnownClass := .sequence :: .reversible :: collections

def mutableSequences : List KnownClass := .mutableSequence :: sequences

def mappings : List KnownClass := .mapping :: collections

def mutableMappings : List KnownClass := .mutableMapping :: mappings

def dicts : List KnownClass := .dict :: .reversible :: mutableMappings

def sets : List KnownClass := .abstractSet :: collections

/-- A class and all those above it, registered ones included. -/
def above : KnownClass → List KnownClass
  | .object => [.object]
  | .noneType => [.noneType, .object]
  | .int => [.int, .object]
  | .bool => [.bool, .int, .object]
  | .str => .str :: sequences
  | .bytes => .bytes :: .byteString :: sequences
  | .byteArray => .byteArray :: .byteString :: mutableSequences
  | .memoryView => .memoryView :: sequences
  | .iterable => [.iterable, .object]
  | .iterator => [.iterator, .iterable, .object]
  | .reversible => [.reversible, .iterable, .object]
  | .sized => [.sized, .object]
  | .container => [.container, .object]
  | .collection => collections
  | .sequence => sequences
  | .mutableSequence => mutableSequences
  | .byteString => .byteString :: sequences
  | .mapping => mappings
  | .mutableMapping => mutableMappings
  | .abstractSet => sets
  | .mutableSet => .mutableSet :: sets
  | .mappingView => [.mappingView, .sized, .object]
  | .keysView => .keysView :: .mappingView :: sets
  | .valuesView => .valuesView :: .mappingView :: collections
  | .itemsView => .itemsView :: .mappingView :: sets
  | .list => .list :: mutableSequences
  | .tuple => .tuple :: sequences
  | .range => .range :: sequences
  | .deque => .deque :: mutableSequences
  | .userList => .userList :: mutableSequences
  | .userString => .userString :: sequences
  | .array => .array :: mutableSequences
  | .dict => dicts
  | .orderedDict => .orderedDict :: dicts
  | .defaultDict => .defaultDict :: dicts
  | .counter => .counter :: dicts
  | .chainMap => .chainMap :: mutableMappings
  | .userDict => .userDict :: mutableMappings
  | .mappingProxy => .mappingProxy :: .reversible :: mappings
  | .dictKeys => .dictKeys :: .keysView :: .mappingView :: .reversible :: sets
  | .dictValues => .dictValues :: .valuesView :: .mappingView :: .reversible :: collections
  | .dictItems => .dictItems :: .itemsView :: .mappingView :: .reversible :: sets
  | .set => .set :: .mutableSet :: sets
  | .frozenSet => .frozenSet :: sets

/-- Texts and bytes have elements, but are no containers. -/
def texts : List KnownClass := [.str, .bytes, .byteArray, .memoryView]

def containers : List KnownClass := [.sequence, .mapping, .abstractSet, .array]

end KnownClass

/-- A class that everyone knows, or one that a program derives from others. -/
inductive ValueClass where
  | known (c : KnownClass)
  | derived (name : String) (bases : List ValueClass)

namespace ValueClass

mutual

/-- Whether a class is a known one or stands below it. -/
def isBelow : ValueClass → KnownClass → Bool
  | .known c, d => c.above.contains d
  | .derived _ bases, d => d == .object || anyBelow bases d
termination_by structural c => c

def anyBelow : List ValueClass → KnownClass → Bool
  | [], _ => false
  | c :: cs, d => c.isBelow d || anyBelow cs d
termination_by structural cs => cs

end

/-- Whether the values of a class can be filtered. -/
def isContainer (c : ValueClass) : Bool :=
  !KnownClass.texts.any c.isBelow && KnownClass.containers.any c.isBelow

/-- A class that is derived from nothing in particular. -/
abbrev plain (name : String) : ValueClass := .derived name []

end ValueClass

/-- The class of a value. An object is lent without what its class is derived from, and a request is taken for no
mapping. -/
def Value.valueClass : Value → ValueClass
  | .null => .known .noneType
  | .bool _ => .known .bool
  | .int _ => .known .int
  | .text _ => .known .str
  | .bytes _ => .known .bytes
  | .byteArray _ => .known .byteArray
  | .list _ => .known .list
  | .tuple _ => .known .tuple
  | .deque _ => .known .deque
  | .set _ => .known .set
  | .frozenSet _ => .known .frozenSet
  | .mapping .plain _ => .known .dict
  | .mapping .ordered _ => .known .orderedDict
  | .mapping .readOnly _ => .known .mappingProxy
  | .view .keys _ => .known .dictKeys
  | .view .values _ => .known .dictValues
  | .view .items _ => .known .dictItems
  | .array .. => .known .array
  | .range .. => .known .range
  | v@(.iterator _) => .derived v.typeName [.known .iterator]
  | v@(.peer ..) => .derived v.typeName [.known .tuple]
  | v => .plain v.typeName

end AccessPolicy
