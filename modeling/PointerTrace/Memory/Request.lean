import PointerTrace.Memory.Store

/- What a store is asked for, and what it answers. Where an id belongs, a text may be given instead. A
   request that fails leaves the store as it was, but for one: a push writes the label of the parent
   when the frame is already in its place. -/
namespace PointerTrace

namespace Store

/-- What is given for an id: a number, known or not, or a text. -/
inductive Handle where
  | number (id : AllocationId)
  | text (text : String)
  deriving DecidableEq, Repr

/-- What a store can be asked for. -/
inductive Request where
  | declare (name : String) (value : Int) (isMutable interiorMutable : Bool)
  | push (handle : Handle) (f : Frame)
  | write (handle : Handle) (value : Int)
  | get (handle : Handle)
  | rootPointer (handle : Handle)
  | read (handle : Handle)
  | lookup (name : String)
  | has (name : String)
  | names
  | values
  deriving DecidableEq, Repr

/-- What a store answers. -/
inductive Answer where
  | id (id : AllocationId)
  | frame (f : Frame)
  | done
  | allocation (a : Allocation)
  | pointer (p : Pointer)
  | value (value : Int)
  | isDeclared (declared : Bool)
  | names (names : List String)
  | values (values : List (String × Int))
  deriving DecidableEq, Repr

/-- What is said when a text is given for an id, which is compared with zero first. -/
def incomparableMessage : String := "'<=' not supported between instances of 'int' and 'str'"

/-- What comes of going to what is given for an id. -/
def Handle.reach {α : Type} (go : AllocationId → Except StoreError α) : Handle → Except Raised α
  | .number id => (go id).mapError StoreError.raised
  | .text _ => .error .incomparable

/-- The answer to a request and the store after it, or what is raised. -/
def answer (s : Store) : Request → Except Raised (Answer × Store)
  | .declare name value isMutable interiorMutable =>
    ((fun made => (.id made.1, made.2)) <$>
      s.declare name value isMutable interiorMutable).mapError StoreError.raised
  | .push handle f => handle.reach fun id => (.frame f, ·) <$> s.push id f
  | .write handle value => handle.reach fun id => (.done, ·) <$> s.write id value
  | .get handle => handle.reach fun id => (fun a => (.allocation a, s)) <$> s.get id
  | .rootPointer handle => handle.reach fun id => (fun p => (.pointer p, s)) <$> s.rootPointer id
  | .read handle => handle.reach fun id => (fun value => (.value value, s)) <$> s.read id
  | .lookup name => ((fun id => (.id id, s)) <$> s.lookup name).mapError StoreError.raised
  | .has name => .ok (.isDeclared (s.has name), s)
  | .names => .ok (.names s.names, s)
  | .values => .ok (.values s.values, s)

/-- Whether what a request does last succeeds: after a push the label of the parent is written. -/
def Request.concludes : Request → Bool
  | .push _ f => canLabel f.parent
  | _ => true

/-- The answer to a request or what is raised, and the store after it. -/
def serve (s : Store) (q : Request) : Except Raised Answer × Store :=
  match s.answer q with
  | .ok (answer, s') => (if q.concludes then .ok answer else .error .unwritable, s')
  | .error raised => (.error raised, s)

/-- What a store says to requests in turn, and the store after them. -/
def serveAll (s : Store) : List Request → List (Except Raised Answer) × Store
  | [] => ([], s)
  | q :: rest => ((s.serve q).1 :: ((s.serve q).2.serveAll rest).1, ((s.serve q).2.serveAll rest).2)

end Store

end PointerTrace
