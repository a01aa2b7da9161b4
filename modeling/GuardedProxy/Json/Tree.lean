import GuardedProxy.Json.Token

/-!
# Trees of a JSON text

A text is read into a tree, also when it is cut off by a fault. Then everything up to the fault is
kept: a container that was not closed says so, and a value that could not be begun is `broken`.
So a reader that walks the tree from left to right meets what is wrong with the text in the order
of the text. A closed container holds no fault of this kind.
-/

namespace GuardedProxy.Json

/-- The key of a field, or nothing when it is a string without a value. -/
abbrev Key := Option String

inductive Tree
  | null
  | bool (value : Bool)
  | number (value : Option Number)
  | string (value : Option String)
  | array (items : List Tree) (closed : Bool)
  | object (fields : List (Key × Tree)) (closed : Bool)
  | broken

namespace Tree

/-- Whether a value is whole. Strings and numbers need not have a value for it. -/
def isWhole : Tree → Bool
  | array _ closed => closed
  | object _ closed => closed
  | broken => false
  | _ => true

mutual

/-- Whether a value is whole, all strings and numbers in it have values, and at most `levels`
containers stand inside one another. -/
def isSound (levels : Nat) : Tree → Bool
  | null => true
  | bool _ => true
  | number value => value.isSome
  | string value => value.isSome
  | array items closed =>
    match levels with
    | 0 => false
    | levels + 1 => closed && areSound levels items
  | object fields closed =>
    match levels with
    | 0 => false
    | levels + 1 => closed && fieldsAreSound levels fields
  | broken => false

def areSound (levels : Nat) : List Tree → Bool
  | [] => true
  | item :: rest => isSound levels item && areSound levels rest

def fieldsAreSound (levels : Nat) : List (Key × Tree) → Bool
  | [] => true
  | (key, value) :: rest => key.isSome && isSound levels value && fieldsAreSound levels rest

end

end Tree

/-- A container around the place where a text is being read. Items and fields come latest first,
and `key` is the key whose value is under way. -/
inductive Frame
  | array (items : List Tree)
  | object (fields : List (Key × Tree)) (key : Key)

/-- What may come next. -/
inductive Place
  | value
  | firstItem
  | afterItem (items : List Tree)
  | firstKey
  | nextKey (fields : List (Key × Tree))
  | colon (fields : List (Key × Tree)) (key : Key)
  | afterField (fields : List (Key × Tree))

inductive Progress
  | reading (place : Place) (stack : List Frame)
  | done (tree : Tree)

namespace Progress

/-- Takes a whole value into the container around it. -/
def complete (stack : List Frame) (tree : Tree) : Progress :=
  match stack with
  | [] => done tree
  | .array items :: stack => reading (.afterItem (tree :: items)) stack
  | .object fields key :: stack => reading (.afterField ((key, tree) :: fields)) stack

/-- Takes a value that was cut off into all containers around it. -/
def unwind (tree : Tree) : List Frame → Tree
  | [] => tree
  | .array items :: stack => unwind (.array (tree :: items).reverse false) stack
  | .object fields key :: stack => unwind (.object ((key, tree) :: fields).reverse false) stack

/-- What has been read when nothing may follow any more. -/
def cutOff (place : Place) (stack : List Frame) : Tree :=
  match place with
  | .value => unwind .broken stack
  | .firstItem => unwind (.array [] false) stack
  | .afterItem items => unwind (.array items.reverse false) stack
  | .firstKey => unwind (.object [] false) stack
  | .nextKey fields => unwind (.object fields.reverse false) stack
  | .colon fields key => unwind (.object ((key, .broken) :: fields).reverse false) stack
  | .afterField fields => unwind (.object fields.reverse false) stack

/-- Takes the first token of a value. -/
def beginValue (stack : List Frame) : Token → Progress
  | .null => complete stack .null
  | .bool value => complete stack (.bool value)
  | .number value => complete stack (.number value)
  | .string value => complete stack (.string value)
  | .openArray => reading .firstItem stack
  | .openObject => reading .firstKey stack
  | _ => done (cutOff .value stack)

def feed (place : Place) (stack : List Frame) (token : Token) : Progress :=
  match place, token with
  | .value, token => beginValue stack token
  | .firstItem, .closeArray => complete stack (.array [] true)
  | .firstItem, token => beginValue (.array [] :: stack) token
  | .afterItem items, .comma => reading .value (.array items :: stack)
  | .afterItem items, .closeArray => complete stack (.array items.reverse true)
  | .firstKey, .closeObject => complete stack (.object [] true)
  | .firstKey, .string key => reading (.colon [] key) stack
  | .nextKey fields, .string key => reading (.colon fields key) stack
  | .colon fields key, .colon => reading .value (.object fields key :: stack)
  | .afterField fields, .comma => reading (.nextKey fields) stack
  | .afterField fields, .closeObject => complete stack (.object fields.reverse true)
  | place, _ => done (cutOff place stack)

/-- Reads on to the end of the value. Gives the value and the tokens behind it. -/
def run : Progress → List Token → Tree × List Token
  | done tree, rest => (tree, rest)
  | reading place stack, [] => (cutOff place stack, [])
  | reading place stack, token :: rest => run (feed place stack token) rest

end Progress

/-- A text as a tree, and whether nothing but blanks follows it. -/
structure Document where
  tree : Tree
  ended : Bool

def Document.read (text : String) : Document :=
  let (tree, rest) := Progress.run (.reading .value []) (tokens text.toList)
  ⟨tree, rest.isEmpty⟩

end GuardedProxy.Json
