import PointerTrace.Machine.Check
import PointerTrace.Trace.Parser

/- Scenarios: short traces with the verdict that each must have, and the catalogue of those that come
   with the checker. -/
namespace PointerTrace

/-- A trace and what is expected of it. A rule, an index or final values that are not given are not
    compared; a final value that is absent says that no variable has the name. -/
structure Scenario where
  name : String
  description : String
  source : String
  sound : Bool
  rule : Option Rule := none
  index : Option Int := none
  finalValues : Option (List (String × Option Int)) := none
  deriving DecidableEq, Repr

namespace Scenario

/-- The program of a scenario. -/
def program (s : Scenario) : Except ReadFailure Program :=
  Program.parse s.source ("<" ++ s.name ++ ">") (some s.name)

/-- Whether a verdict is as expected. -/
def expects (s : Scenario) (r : Verdict) : Bool :=
  match s.sound, r with
  | true, .sound _ _ finalValues _ =>
    (s.finalValues.getD []).all fun p => finalValues.lookup p.1 = p.2
  | false, .violation v =>
    (s.rule.all (· = v.rule)) && (s.index.all (· = (v.index : Int)))
  | _, _ => false

/-- The verdict that is expected, in words. -/
def expectation (s : Scenario) : String :=
  if s.sound then "sound"
  else match s.rule with
    | some r => "violation " ++ r.name
    | none => "violation"

/-- The text of a trace with one statement a line, after an empty first line. -/
def lines (l : List String) : String := String.join (l.map fun s => "\n" ++ s) ++ "\n"

/-- The scenarios that come with the checker. -/
def catalogue : List Scenario := [
  { name := "shared-const-write"
    description := "write through a const pointer cast from a shared borrow of an immutable value"
    source := lines ["let x = 2;", "let r = &x;", "let p = r as *const i32;", "opaque(p);"]
    sound := false, rule := some .readOnlyViolation, index := some 3 },
  { name := "mut-binding-shared-roundtrip"
    description := "binding mutability does not legalize a write through a shared borrow"
    source := lines ["let mut x = 2;", "let r = &x;", "let p = r as *const i32;",
      "let i = p as usize;", "let q = i as *mut i32;", "opaque(q);"]
    sound := false, rule := some .untaggedAccess, index := some 5 },
  { name := "unique-const-cast"
    description := "a const cast of a mutable borrow demotes it, so casting back to *mut cannot write"
    source := lines ["let mut x = 2;", "let m = &mut x;", "let p = m as *const i32;",
      "let q = p as *mut i32;", "opaque(q);"]
    sound := false, rule := some .readOnlyViolation, index := some 4 },
  { name := "unique-const-int-roundtrip"
    description := "const cast then integer round-trip: the write goes through an untagged pointer"
    source := lines ["let mut x = 2;", "let m = &mut x;", "let p = m as *const i32;",
      "let i = p as usize;", "let q = i as *mut i32;", "opaque(q);"]
    sound := false, rule := some .untaggedAccess, index := some 5 },
  { name := "unique-mut-cast"
    description := "a mutable borrow cast straight to *mut may be written by an opaque call"
    source := lines ["let mut x = 2;", "let m = &mut x;", "let p = m as *mut i32;", "opaque(p);",
      "let v = x;"]
    sound := true, finalValues := some [("x", some 1)] },
  { name := "cell-shared-write"
    description := "a shared borrow of an interior-mutable value grants SharedReadWrite"
    source := lines ["let x = Cell::new(2);", "let r = &x;", "let p = r as *const i32;",
      "opaque(p);"]
    sound := true, finalValues := some [("x", some 1)] },
  { name := "cell-two-unique"
    description := "two unique pointers derived from one shared access of a Cell"
    source := lines ["let x: Cell = 2;", "let r = &x;", "let a = r as *mut i32;",
      "let b = r as *mut i32;", "*b = 3;", "let v = *a;"]
    sound := false, rule := some .disabled, index := some 5 },
  { name := "two-mutable-borrows"
    description := "using the first of two overlapping mutable borrows"
    source := lines ["let mut x = 0;", "let a = &mut x;", "let b = &mut x;", "*b = 1;", "*a = 2;"]
    sound := false, rule := some .disabled, index := some 4 },
  { name := "shared-invalidated-by-write"
    description := "a shared borrow is popped when the owner writes"
    source := lines ["let mut x = 0;", "let r = &x;", "x = 5;", "let v = *r;"]
    sound := false, rule := some .tagNotFound, index := some 3 },
  { name := "reborrow-popped-by-parent-write"
    description := "writing through a parent pops pointers derived from it"
    source := lines ["let mut x = 0;", "let m = &mut x;", "let p = m as *mut i32;", "*m = 1;",
      "*p = 2;"]
    sound := false, rule := some .tagNotFound, index := some 4 },
  { name := "parent-read-disables-child"
    description := "reading the owner while a mutable borrow is live disables the borrow"
    source := lines ["let mut x = 0;", "let m = &mut x;", "let v = x;", "*m = 1;"]
    sound := false, rule := some .disabled, index := some 3 },
  { name := "nested-reborrows"
    description := "well-nested reborrows used in stack order"
    source := lines ["let mut x = 0;", "let m = &mut x;", "let p = m as *mut i32;", "*p = 1;",
      "*m = 2;", "let v = x;"]
    sound := true, finalValues := some [("x", some 2)] }]

/-- The scenario of the catalogue with a name. -/
def named? (name : String) : Option Scenario := catalogue.find? (·.name = name)

end Scenario

end PointerTrace
