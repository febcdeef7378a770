import SM.Utils.PackInt

/-!
# Platform packs

The two implementations of `PlatformPackInterface`: a head of main and
assistant command in front of the request, and no head.
-/

namespace SM.Network

open SM.Utils

inductive PlatformPack where
  | mainAss (main ass : UInt32)
  | noMainAss (main : UInt32)
deriving DecidableEq

namespace PlatformPack

def getMain : PlatformPack → Int
  | .mainAss main _ => intOfBits main
  | .noMainAss main => intOfBits main

/-- `NoMainAssPlatPack` inherits the result of the base class. -/
def getAss : PlatformPack → Int
  | .mainAss _ ass => intOfBits ass
  | .noMainAss _ => 0

/-- `NoMainAssPlatPack` inherits the function of the base class, which asserts and does nothing. -/
def setAss : PlatformPack → Int32 → PlatformPack
  | .mainAss main _, ass => .mainAss main ass.toUInt32
  | .noMainAss main, _ => .noMainAss main

def len : PlatformPack → Nat
  | .mainAss _ _ => 8
  | .noMainAss _ => 0

/-- Here too `NoMainAssPlatPack` has the function of the base class. -/
def headLen : PlatformPack → Nat
  | .mainAss _ _ => 8
  | .noMainAss _ => 0

/-- The bytes which overwrite the span. -/
def pack : PlatformPack → Bytes → Bool × Bytes
  | .mainAss main ass, dst =>
      if dst.length ≠ 8 then (false, dst) else (true, packuint32 main ++ packuint32 ass)
  | .noMainAss _, dst => (true, dst)

/-- Success flag and the members afterwards. The flags of the two inner `unpackuint32` calls
are not used. -/
def unpack : PlatformPack → Bytes → Bool × PlatformPack
  | .mainAss main ass, src =>
      if src.length ≠ 8 then (false, .mainAss main ass)
      else
        let (_, tail, main') := unpackuint32 src 0
        let (_, _, ass') := unpackuint32 tail main'
        (true, .mainAss main' ass')
  | .noMainAss main, _ => (true, .noMainAss main)

/-- A complete head is unpacked. -/
theorem unpack_take {plat : PlatformPack} {body : Bytes} (enough : plat.len ≤ body.length) :
    (plat.unpack (body.take plat.len)).1 = true := by
  cases plat with
  | mainAss main ass =>
      simp only [len] at enough
      simp [unpack, len, Nat.min_eq_left enough]
  | noMainAss main => rfl

end PlatformPack
end SM.Network
