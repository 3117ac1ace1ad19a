import RecoveryAgent.Python.Errors

/-!
# The signature of a webhook

`ingest/verify.py`. The header has to be the HMAC of the raw body under the webhook
secret. Without a usable secret everything is rejected, unless an operator has asked
for unsigned webhooks outside production.
-/

namespace RecoveryAgent.Ingest

open Library Python

/-- What the check takes from the process environment and from `hmac`. -/
structure SignatureSettings where
  appEnv : Option String := none
  allowUnsignedWebhooks : Option String := none
  razorpayWebhookSecret : Option String := none
  hmacHexdigest : String → ByteArray → String
  hexdigest_ascii : ∀ secret body, isAscii (hmacHexdigest secret body) = true

def truthyTexts : List String := ["1", "true", "yes", "on"]

def unsignedWebhooksAllowed (env : SignatureSettings) : Bool :=
  if lower (strip (env.appEnv.getD "dev")) = "production" then false
  else lower (strip (env.allowUnsignedWebhooks.getD "")) ∈ truthyTexts

def secretIsUsable (secret : String) : Bool := secret ≠ "" && !endsWith "xxx" secret

def SignatureSettings.secret (env : SignatureSettings) : String :=
  env.razorpayWebhookSecret.getD ""

def verifyRazorpaySignature (env : SignatureSettings) (rawBody : ByteArray)
    (signature : Option String) : Except PyError Bool :=
  if secretIsUsable env.secret = false then .ok (unsignedWebhooksAllowed env)
  else
    match signature with
    | none => .ok false
    | some signature =>
        if signature = "" then .ok false
        else compareDigest (env.hmacHexdigest env.secret rawBody) (strip signature)

/-- A signature that is compared, but cannot be. -/
def Incomparable (env : SignatureSettings) (signature : Option String) : Prop :=
  secretIsUsable env.secret = true ∧ ∃ s ∈ signature, s ≠ "" ∧ isAscii (strip s) = false

instance (env : SignatureSettings) (signature : Option String) :
    Decidable (Incomparable env signature) :=
  inferInstanceAs (Decidable (_ ∧ ∃ s ∈ signature, _))

theorem faultOf_verify (env : SignatureSettings) (rawBody : ByteArray)
    (signature : Option String) :
    faultOf (verifyRazorpaySignature env rawBody signature) =
      faultIf (Incomparable env signature) .escaped := by
  unfold verifyRazorpaySignature faultIf Incomparable
  by_cases husable : secretIsUsable env.secret = false
  · simp [husable]
  · cases signature with
    | none => simp [husable]
    | some s =>
        by_cases hempty : s = ""
        · simp [husable, hempty]
        · by_cases hascii : isAscii (strip s) = true
          · simp [husable, compareDigest, env.hexdigest_ascii, hempty, hascii]
          · simp [husable, compareDigest, hempty, hascii, PyError.fault]

end RecoveryAgent.Ingest
