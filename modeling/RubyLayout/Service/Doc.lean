import RubyLayout.Text.Quoted

/-!
# Request and answer documents

Requests and answers are JSON documents. A number is kept as its literal text, so integers of
any size pass unchanged and a request's number is read exactly as it was written; objects keep
their members in order. The service reads a member by its exact key, the last one when a key
repeats.

The helpers here turn members into the values requests carry and build the answers' error
objects.
-/

set_option autoImplicit false

namespace RubyLayout.Service

/-- A JSON document. -/
inductive Doc where
  | null
  | bool (b : Bool)
  /-- A number, as its literal text. -/
  | num (text : String)
  | str (s : String)
  | arr (items : List Doc)
  | obj (members : List (String × Doc))
deriving Inhabited, Repr

namespace Doc

/-- An integer as a document. -/
def int (i : Int) : Doc := .num (toString i)

mutual

/-- The number of nodes of a document, which bounds how deeply its members nest. -/
def nodes : Doc → Nat
  | .arr xs => 1 + nodesOfItems xs
  | .obj ms => 1 + nodesOfMembers ms
  | _ => 1

/-- The number of nodes of a list of documents. -/
def nodesOfItems : List Doc → Nat
  | [] => 0
  | x :: xs => nodes x + nodesOfItems xs

/-- The number of nodes of the values of an object's members. -/
def nodesOfMembers : List (String × Doc) → Nat
  | [] => 0
  | m :: ms => nodes m.2 + nodesOfMembers ms

end

/-- The member of an object with key `k`, the last one if it repeats. -/
def get? (d : Doc) (k : String) : Option Doc :=
  match d with
  | .obj ms => (ms.reverse.find? (fun m => m.1 == k)).map Prod.snd
  | _ => none

/-- A text member, if present and a string. -/
def getStr? (d : Doc) (k : String) : Option String :=
  match d.get? k with
  | some (.str s) => some s
  | _ => none

/-- A flag member; absent or not a boolean counts as false. -/
def getFlag (d : Doc) (k : String) : Bool :=
  match d.get? k with
  | some (.bool b) => b
  | _ => false

/-- An error answer of a kind with a message. -/
def error (kind message : String) : Doc :=
  .obj [("error", .str kind), ("message", .str message)]

/-- The error answer for a malformed request. -/
def badInput (message : String) : Doc := error "bad_input" message

/-- Adds members to an object. -/
def extend (d : Doc) (more : List (String × Doc)) : Doc :=
  match d with
  | .obj ms => .obj (ms ++ more)
  | d => d

end Doc

end RubyLayout.Service
