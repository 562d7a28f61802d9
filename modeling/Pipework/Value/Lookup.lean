import Pipework.Value.Basic

set_option autoImplicit false

/-!
# Looking for an app or a number function

A wrapped app may arrive as a function, as an object or as an erased value around one of them; the
same holds of number functions.

## Main definitions

* `Content.app?`, `Value.app?` — the app in a content or a value.
* `Content.num?`, `Value.num?` — the number function in a content or a value.
* `Value.asApp?`, `Value.asNum?` — a value as an app or a number function, if it is one itself.
-/

namespace Pipework

/-- A routine as a number function, if its type is that of number functions. An operation that keeps
what it is told is none: functions of the program only pass it on. -/
def Routine.num? : Routine → Option Num
  | .num n => some n
  | .func f none => if f.shape = .numFn then some (.func f) else none
  | _ => none

mutual

/-- The app in a content, also behind erased values. -/
def Content.app? : Content → Option App
  | .app _ a => some a
  | .value v => v.app?
  | _ => none

/-- The app in a value. -/
def Value.app? : Value → Option App
  | .data c => c.app?
  | .bound c => c.app?
  | _ => none

end

mutual

/-- The number function in a content, also behind erased values. -/
def Content.num? : Content → Option Num
  | .routine r => r.num?
  | .value v => v.num?
  | _ => none

/-- The number function in a value. -/
def Value.num? : Value → Option Num
  | .data c => c.num?
  | .bound c => c.num?
  | .callable r => r.num?
  | _ => none

end

/-- A value as an app; an erased value around an app is none itself. -/
def Value.asApp? (v : Value) : Option App :=
  match v.content? with
  | some (.app _ a) => some a
  | _ => none

/-- A value as a number function; an erased value around one is none itself. -/
def Value.asNum? (v : Value) : Option Num :=
  match v.content? with
  | some (.routine r) => r.num?
  | _ => none

end Pipework
