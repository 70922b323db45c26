import VmHost.Call.Code
import VmHost.Checkup.Bench

/-!
# The part of a checkup about native calls

A function of integers and doubles, a result narrower than a register, a buffer of the wrong size,
and a function whose code is written into fresh memory.
-/
namespace VmHost.Checkup.Calls

open Call (Callee NativeType)

/-- Calls a function whose argument buffer has `bytes` bytes. -/
def call (f : Option Callee) (arguments : List (NativeType × UInt64)) (bytes : Nat)
    (result : NativeType) : Except Error UInt64 :=
  (Call.Request.invoke {
    callee := f
    arguments := arguments.map (·.2)
    types := arguments.map (·.1)
    bufferSize := bytes
    result := result }).outcome

/-- The word of a whole number in double precision. -/
def double (i : Int) : UInt64 := (Number.Format.double.ofInt i).toUInt64

def half : UInt64 := (Number.Format.double.half (Number.Format.double.ofInt 1)).toUInt64

/-- A call succeeded with this word. -/
def gives (r : Except Error UInt64) (w : UInt64) : Bool :=
  match r with
  | .ok v => v = w
  | .error _ => false

/-- The outcome of a call as it is shown when another one was expected. -/
def resultText : Except Error UInt64 → String
  | .ok w => Text.tagged "Ok" (toString w.toNat)
  | .error e => Text.tagged "Err" e.debug

/-- A check of the word that a call gives. -/
def checkWord (name : String) (r : Except Error UInt64) (expected : UInt64) : Item :=
  match r with
  | .ok w => .ofBool name (w = expected) ("got " ++ toString w.toInt64.toInt)
  | .error e => .check name (some e.message)

/-- The sum of two products, 3 with 2 and 10 with one half. -/
def mixedCheck : Item :=
  checkWord "mixed argument call"
    (call (some Call.Sample.dot)
      [(.int32, 3), (.double, double 2), (.int64, 10), (.double, half)] 32 .double)
    (double 11)

/-- Seven, negated in two bytes. -/
def narrowCheck : Item :=
  checkWord "narrow return sign-extended"
    (call (some Call.Sample.toShort) [(.int64, 7)] 8 .int16) (0 - 7)

/-- A buffer that is too small. -/
def bufferCheck : Item :=
  let r := call (some Call.Sample.toShort) [(.int64, 7)] 4 .int16
  let refused := match r with
    | .error (.invalidArgument _) => true
    | _ => false
  .ofBool "mismatched buffer rejected" refused (resultText r)

/-- Code in one fresh page. -/
def generated (h : Host) : List Item × Host :=
  let name := "allocate one executable page"
  match Region.allocate pageSize with
  | .error e => ([.check name (some e.message)], h)
  | .ok region =>
    let r := call (Call.Code.callee? (Call.Code.load region Call.Code.add))
      [(.int64, 40), (.int64, 2)] 16 .int64
    ([.check name none, .ofBool "call generated code" (gives r 42) (resultText r)],
      h.log .debug ("mapped " ++ toString region.size ++ " executable bytes at 0x" ++
        String.ofList (Text.hex region.base)))

def run (b : Bench) : List Item × Bench :=
  let (items, h) := generated b.host
  (.part "Part D: Native calls" :: mixedCheck :: narrowCheck :: bufferCheck :: items, b.withHost h)

end VmHost.Checkup.Calls
