import AccessDirectory.Object

/-! A directory keeps the objects of one kind by identifier. It may assign identifiers, counting upwards
and passing over those in use. Each of its methods may be out of order, in which case it fails and
does nothing else. -/

namespace AccessDirectory

inductive Method
  | identifiers
  | getAll
  | get
  | add
  | update
  | remove
deriving DecidableEq, Repr

/-- The objects of a directory; `counter` is the next number to assign, if it assigns identifiers. -/
structure Directory (k : Kind) where
  objects : Table k.Object := ∅
  counter : Option Int := none
  outage : Method → Option Failure := fun _ => none

namespace Directory
variable {k : Kind}

/-- The least number from `n` on whose text is not in use, if it is among the first `tries + 1`. -/
def freeNumber (inUse : String → Bool) : (tries : Nat) → (n : Int) → Int
  | 0, n => n
  | tries + 1, n => if inUse (toString n) then freeNumber inUse tries (n + 1) else n

def nextNumber (d : Directory k) (n : Int) : Int :=
  freeNumber d.objects.contains d.objects.size n

def guarded {α : Type} (d : Directory k) (method : Method) (result : Except Failure α) :
    Except Failure α :=
  match d.outage method with
  | some f => .error f
  | none => result

def identifiers (d : Directory k) : Except Failure (List String) :=
  d.guarded .identifiers (.ok d.objects.keys)

def getAll (d : Directory k) (ids : List String) : Except Failure (List k.Object) :=
  d.guarded .getAll (.ok (ids.filterMap d.objects.get?))

def get (d : Directory k) (identifier : String) : Except Failure (Option k.Object) :=
  d.guarded .get (.ok (d.objects.get? identifier))

def require (d : Directory k) (identifier : String) : Except Failure k.Object :=
  match d.get identifier with
  | .error f => .error f
  | .ok none => .error (.notFound (some identifier))
  | .ok (some o) => .ok o

/-- The identifier of an object that is to be added, if it names one; an empty text names none. -/
def ownIdentifier? (o : k.Object) : Option String :=
  match o.identifier with
  | some s => if s.isEmpty then none else some s
  | none => none

def add (d : Directory k) (o : k.Object) : Except Failure (k.Object × Directory k) :=
  d.guarded .add <|
    match ownIdentifier? o with
    | some i =>
      if d.objects.contains i then .error (.alreadyExists i)
      else .ok (o, { d with objects := d.objects.put i o })
    | none =>
      match d.counter with
      | none => .error .identifierRequired
      | some n =>
        let number := d.nextNumber n
        let i := toString number
        let o := Kind.Object.setIdentifier o (some i)
        .ok (o, { d with objects := d.objects.put i o, counter := some (number + 1) })

def update (d : Directory k) (o : k.Object) : Except Failure (Directory k) :=
  d.guarded .update <|
    match o.identifier with
    | none => .error (.notFound none)
    | some i =>
      if d.objects.contains i then .ok { d with objects := d.objects.put i o }
      else .error (.notFound (some i))

def remove (d : Directory k) (identifier : Option String) : Except Failure (Directory k) :=
  d.guarded .remove <|
    match identifier with
    | none => .error (.notFound none)
    | some i =>
      if d.objects.contains i then .ok { d with objects := d.objects.erase i }
      else .error (.notFound (some i))

def addAll (d : Directory k) : List k.Object → Except Failure (Directory k)
  | [] => .ok d
  | o :: rest => do
    let (_, d) ← d.add o
    d.addAll rest

end Directory

structure Directories where
  users : Option (Directory .user) := none
  userGroups : Option (Directory .userGroup) := none
  connections : Option (Directory .connection) := none

namespace Directories

def get? (ds : Directories) : (k : Kind) → Option (Directory k)
  | .user => ds.users
  | .userGroup => ds.userGroups
  | .connection => ds.connections

def set (ds : Directories) : {k : Kind} → Directory k → Directories
  | .user, d => { ds with users := some d }
  | .userGroup, d => { ds with userGroups := some d }
  | .connection, d => { ds with connections := some d }

def find (ds : Directories) (k : Kind) : Except Failure (Directory k) :=
  match ds.get? k with
  | some d => .ok d
  | none => .error (.noDirectory k)

@[simp] theorem get?_set_self (ds : Directories) {k : Kind} (d : Directory k) :
    (ds.set d).get? k = some d := by cases k <;> rfl

theorem get?_set_ne (ds : Directories) {k j : Kind} (d : Directory k) (h : j ≠ k) :
    (ds.set d).get? j = ds.get? j := by
  cases k <;> cases j <;> first | rfl | exact absurd rfl h

end Directories

end AccessDirectory
