import PointerTrace.Program.Basic

/- Statements of the trace language and the operations that they stand for. A pointer expression is
   a name or a borrow, followed by casts; each borrow and each cast is one operation. All but the
   last bind temporaries, and in a call the last one does so too. -/
namespace PointerTrace.Trace

/-- What a chain of casts starts from. -/
inductive Primary where
  | name (name : String)
  | borrow (kind : BorrowKind) (target : String)
  deriving DecidableEq, Repr

/-- A cast of a pointer to another pointer or to an integer. -/
inductive Cast where
  | pointer (kind : BorrowKind)
  | integer
  deriving DecidableEq, Repr

/-- A name or a borrow with casts after it. -/
structure PointerExpr where
  primary : Primary
  casts : List Cast
  deriving DecidableEq, Repr

/-- What a name is bound to. -/
inductive Initializer where
  | value (n : Int)
  | cell (n : Int)
  | deref (source : String)
  | pointer (e : PointerExpr)
  deriving DecidableEq, Repr

/-- A statement. -/
inductive Statement where
  | binding (isMutable : Bool) (name : String) (isCell : Bool) (init : Initializer)
  | deref (source : String) (value : Option Int)
  | assign (name : String) (value : Int)
  | call (function : String) (argument : PointerExpr)
  deriving DecidableEq, Repr

/-- One link of a chain, an operation on the pointer before it. -/
inductive Link where
  | borrow (kind : BorrowKind) (target : String)
  | cast (cast : Cast)
  deriving DecidableEq, Repr

/-- The operation of a link that takes a pointer and binds a name. -/
def Link.action (source result : String) : Link → Action
  | .borrow kind target => .borrow target kind result
  | .cast (.pointer kind) => .reborrow source kind result
  | .cast .integer => .toInteger source result

/-- The operations of a chain that starts from a pointer, with the number of temporaries used
    before. The last link binds the given name, any other link a temporary. The name of the last
    pointer and the new number of temporaries are returned too. -/
def chain (result : Option String) (source : String) (used : Nat) :
    List Link → List Action × String × Nat
  | [] => ([], source, used)
  | link :: rest =>
    match rest, result with
    | [], some name => ([link.action source name], name, used)
    | _, _ =>
      let name := Program.temporary (used + 1)
      let (actions, last, used) := chain result name (used + 1) rest
      (link.action source name :: actions, last, used)

namespace PointerExpr

/-- The name that the first cast applies to. -/
def start (e : PointerExpr) : String :=
  match e.primary with
  | .name name => name
  | .borrow .. => ""

/-- The links of an expression. -/
def links (e : PointerExpr) : List Link :=
  (match e.primary with
    | .name _ => []
    | .borrow kind target => [.borrow kind target]) ++ e.casts.map .cast

/-- The operations of an expression, the name of its pointer, and the number of temporaries used
    after it. -/
def expand (e : PointerExpr) (result : Option String) (used : Nat) : List Action × String × Nat :=
  chain result e.start used e.links

end PointerExpr

/-- The operations of a statement and the number of temporaries used after it. Binding a bare name
    reads it. -/
def Statement.actions (used : Nat) : Statement → List Action × Nat
  | .binding isMutable name isCell (.value n) => ([.declare name n isMutable isCell], used)
  | .binding isMutable name _ (.cell n) => ([.declare name n isMutable true], used)
  | .binding _ name _ (.deref source) => ([.read source (some name)], used)
  | .binding _ name _ (.pointer e) =>
    if e.links = [] then ([.read e.start (some name)], used)
    else
      let (actions, _, used) := e.expand (some name) used
      (actions, used)
  | .deref source (some n) => ([.write source n], used)
  | .deref source none => ([.read source none], used)
  | .assign name n => ([.write name n], used)
  | .call function e =>
    let (actions, argument, used) := e.expand none used
    (actions ++ [.call argument function], used)

end PointerTrace.Trace
