import DisplayServer.Table

/-!
# Identifiers

Screens and screen groups share one kind of identifier and are numbered from one source;
displays have a kind and a source of their own, and the render engine has its own numbers for
screens. A source counts without bound and issues its count modulo 2⁶⁴, so the numbers it
issues are all different until 2⁶⁴ of them have been drawn.

Numbers of window sessions are 32-bit signed quantities kept as `Int`. `Windows` counts them.
-/

namespace DisplayServer

/-- Identifies a screen or a screen group. -/
structure ScreenId where
  val : Nat
  deriving DecidableEq, Inhabited

/-- Identifies a display. -/
structure DisplayId where
  val : Nat
  deriving DecidableEq, Inhabited

/-- Identifies a screen inside the render engine. -/
structure RenderId where
  val : Nat
  deriving DecidableEq, Inhabited

/-- Identifies a window session. -/
structure SessionId where
  val : Int
  deriving DecidableEq, Inhabited

instance : Ranked ScreenId where
  rank s := s.val
  rank_inj {a b} h := by cases a; cases b; congr; exact Int.ofNat_inj.mp h

instance : Ranked DisplayId where
  rank d := d.val
  rank_inj {a b} h := by cases a; cases b; congr; exact Int.ofNat_inj.mp h

instance : Ranked RenderId where
  rank r := r.val
  rank_inj {a b} h := by cases a; cases b; congr; exact Int.ofNat_inj.mp h

instance : Ranked SessionId where
  rank s := s.val
  rank_inj {a b} h := by cases a; cases b; congr

def ScreenId.label (s : ScreenId) : String := "screen#" ++ toString s.val

def DisplayId.label (d : DisplayId) : String := "display#" ++ toString d.val

/-- A source of numbers: `count` says where it stands. -/
structure IdSource where
  count : Nat
  deriving DecidableEq

namespace IdSource

def startingAt (first : Nat) : IdSource := ⟨first⟩

instance : Inhabited IdSource := ⟨startingAt 0⟩

/-- The number that comes next. -/
def peek (s : IdSource) : Nat := s.count % 18446744073709551616

/-- The source after its next number was drawn. -/
def advance (s : IdSource) : IdSource := ⟨s.count + 1⟩

@[simp] theorem count_advance (s : IdSource) : s.advance.count = s.count + 1 := rfl

theorem peek_of_lt {s : IdSource} (h : s.count < 18446744073709551616) : s.peek = s.count :=
  Nat.mod_eq_of_lt h

end IdSource

end DisplayServer
