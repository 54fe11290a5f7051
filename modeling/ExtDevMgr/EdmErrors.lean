import Mathlib.Init

/-!
# The error codes

`UsbErrCode` as numbers, for the functions that mix them with the codes of other services. The codes
count on from `EDM_ERR_OFFSET`.
-/

namespace ExtDevMgr

/-- `EDM_ERR_OFFSET`, of which only the sign matters. -/
structure EdmErrors where
  edmErrOffset : Int
  edmErrOffset_pos : 0 < edmErrOffset

namespace EdmErrors

/-- The code of the nth error. -/
def code (err : EdmErrors) (n : Nat) : Int := err.edmErrOffset + n

variable (err : EdmErrors)

def edmOk : Int := 0
def edmNok : Int := err.code 0
def edmErrInvalidParam : Int := err.code 5
def edmErrInvalidObject : Int := err.code 6
def edmErrIo : Int := err.code 10
def edmErrUsbErr : Int := err.code 15
def edmErrNotSystemApp : Int := err.code 16

theorem code_ne_edmOk (n : Nat) : err.code n ≠ edmOk := by
  have hpos := err.edmErrOffset_pos
  rw [code, edmOk]
  omega

end EdmErrors
end ExtDevMgr
