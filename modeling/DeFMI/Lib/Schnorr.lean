import DeFMI.Lib.Commitment
set_option autoImplicit false

/-!
Schnorr relations `X = x • h`: the announcement that a challenge and a response
belong to, and the secret that two of them on one announcement give away.
-/

namespace DeFMI.Lib

variable {V : Type} [AddCommGroup V] [Module Scalar V] {h X : V} {c c' z z' : Scalar}

def schnorrAnnouncement (h X : V) (c z : Scalar) : V := z • h - c • X

theorem schnorrAnnouncement_response {x : Scalar} (hx : X = x • h) (c k : Scalar) :
    schnorrAnnouncement h X c (k + c * x) = k • h := by
  subst hx
  simp only [schnorrAnnouncement, add_smul, mul_smul]
  abel

def schnorrExtract (c c' z z' : Scalar) : Scalar := (z - z') * (c - c')⁻¹

/-- Two answers to different challenges on one announcement give the secret. -/
theorem schnorrExtract_sound (hne : c ≠ c')
    (heq : schnorrAnnouncement h X c z = schnorrAnnouncement h X c' z') :
    X = schnorrExtract c c' z z' • h := by
  have hdiff : (c - c') • X = (z - z') • h := by
    simp only [schnorrAnnouncement] at heq
    calc (c - c') • X = z • h - z' • h - ((z • h - c • X) - (z' • h - c' • X)) := by module
      _ = (z - z') • h := by rw [heq, sub_self, sub_zero, sub_smul]
  have hinv : (c - c')⁻¹ * (c - c') = 1 := inv_mul_cancel₀ (sub_ne_zero.mpr hne)
  calc X = ((c - c')⁻¹ * (c - c')) • X := by rw [hinv, one_smul]
    _ = (c - c')⁻¹ • ((z - z') • h) := by rw [mul_smul, hdiff]
    _ = schnorrExtract c c' z z' • h := by rw [schnorrExtract, smul_smul, mul_comm]

end DeFMI.Lib
