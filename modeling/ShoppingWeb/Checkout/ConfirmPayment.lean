import ShoppingWeb.Order.OrderController

/-!
# Browser signatures on the server

`confirmPayment` of the checkout page signs with WebCrypto; the order service
verifies with `java.security`.  Message text, message bytes, key and Base64
agree.  The signature encodings do not, so an order is accepted only where the
two blocks of a signature read as a DER sequence of other numbers.
-/

namespace ShoppingWeb.Checkout

open ShoppingWeb.Utf16
open ShoppingWeb.Shared
open ShoppingWeb.OrderService
open ShoppingWeb.Program

/-- `window.crypto.subtle` with a P-256 key pair it generated. -/
structure WebCrypto where
  sign : Bytes → EcdsaSignature
  exportSpki : Bytes

/-- `address + ":" + phone + ":" + timestamp` -/
def payloadString (address phone timestamp : JString) : JString :=
  address ++ js ":" ++ phone ++ js ":" ++ timestamp

/-- The signature `confirmPayment` asks WebCrypto for. -/
def browserSignature (browser : WebCrypto) (address phone timestamp : JString) : EcdsaSignature :=
  browser.sign (textEncode (payloadString address phone timestamp))

/-- The body `confirmPayment` sends to `/api/orders`. -/
def confirmPaymentPayload (browser : WebCrypto) (address phone timestamp : JString) :
    OrderPayload where
  shippingAddress := some address
  phoneNumber := some phone
  timestamp := some timestamp
  signature := some (Base64.encode (browserSignature browser address phone timestamp).rawBytes)
  publicKey := some (Base64.encode browser.exportSpki)

theorem dataToVerify_confirmPaymentPayload (browser : WebCrypto)
    (address phone timestamp : JString) :
    dataToVerify (confirmPaymentPayload browser address phone timestamp) timestamp =
      payloadString address phone timestamp := rfl

/-- Both sides sign the same bytes when the text has no unpaired surrogate. -/
theorem getBytes_dataToVerify (browser : WebCrypto) {address phone timestamp : JString}
    (hdata : WellFormed (payloadString address phone timestamp)) :
    getBytes (dataToVerify (confirmPaymentPayload browser address phone timestamp) timestamp) =
      textEncode (payloadString address phone timestamp) := by
  rw [dataToVerify_confirmPaymentPayload, textEncode_eq_getBytes hdata]

@[simp]
theorem decodeBase64_encode (java : JavaSecurity) (bytes : Bytes) :
    decodeBase64 java (Base64.encode bytes) = .ok bytes := by
  simp [decodeBase64, Base64.trim_encode, Base64.decode_encode]

/-- `SHA256withECDSA` reads the DER sequence of two numbers and verifies them by
the equation of ECDSA. -/
def VerifiesDer (java : JavaSecurity)
    (equation : java.PublicKey → Bytes → EcdsaSignature → Prop) : Prop :=
  ∀ publicKey message candidate, java.verify publicKey message candidate = .ok true ↔
    ∃ read : EcdsaSignature, candidate = read.derBytes ∧ equation publicKey message read

/-- The request passes the check: verification answers true and nothing is
thrown. -/
def PassesSignatureCheck (java : JavaSecurity) (browser : WebCrypto)
    (address phone timestamp : JString) : Prop :=
  checkOrderSignature java (confirmPaymentPayload browser address phone timestamp) = .ok ⟨⟩

/-- The check verifies the raw signature bytes under the key of the browser. -/
theorem passesSignatureCheck_iff {java : JavaSecurity} {browser : WebCrypto}
    {publicKey : java.PublicKey} (hkey : java.generatePublic browser.exportSpki = .ok publicKey)
    {address phone timestamp : JString} :
    PassesSignatureCheck java browser address phone timestamp ↔
      java.verify publicKey (getBytes (payloadString address phone timestamp))
        (browserSignature browser address phone timestamp).rawBytes = .ok true := by
  have hverified : verifyPayload java (getBytes (payloadString address phone timestamp))
      (Base64.encode browser.exportSpki)
      (Base64.encode (browserSignature browser address phone timestamp).rawBytes) = .ok ⟨⟩ ↔
        java.verify publicKey (getBytes (payloadString address phone timestamp))
          (browserSignature browser address phone timestamp).rawBytes = .ok true := by
    simp only [verifyPayload, decodeBase64_encode, except_bind_ok, Except.ok.injEq,
      exists_eq_left', hkey]
    constructor
    · rintro ⟨isValid, hverify, hvalid⟩
      cases isValid with
      | true => exact hverify
      | false => cases hvalid
    · intro hverify
      exact ⟨true, hverify, rfl⟩
  rw [← hverified, PassesSignatureCheck, checkOrderSignature]
  simp only [confirmPaymentPayload, dataToVerify]
  split
  · rename_i hdone
    exact iff_of_true rfl hdone
  · rename_i hmessage
    constructor
    · intro hthrown
      cases hthrown
    · intro hdone
      cases hmessage.symm.trans hdone

/-- The request of the checkout page passes the check exactly if the blocks of
its signature happen to be the DER sequence of other numbers that verify. -/
theorem confirmPayment_passes_iff (java : JavaSecurity)
    (equation : java.PublicKey → Bytes → EcdsaSignature → Prop) (browser : WebCrypto)
    (publicKey : java.PublicKey) (address phone timestamp : JString)
    (hverify : VerifiesDer java equation)
    (hkey : java.generatePublic browser.exportSpki = .ok publicKey) :
    PassesSignatureCheck java browser address phone timestamp ↔
      ∃ read : EcdsaSignature, read ≠ browserSignature browser address phone timestamp ∧
        (browserSignature browser address phone timestamp).rawBytes = read.derBytes ∧
          equation publicKey (getBytes (payloadString address phone timestamp)) read := by
  rw [passesSignatureCheck_iff hkey, hverify]
  constructor
  · rintro ⟨read, hraw, hequation⟩
    refine ⟨read, ?_, hraw, hequation⟩
    rintro rfl
    exact EcdsaSignature.rawBytes_ne_derBytes _ hraw
  · rintro ⟨read, -, hread⟩
    exact ⟨read, hread⟩

/-- A P-256 signature of the text below under the key below. -/
def sampleSignature : EcdsaSignature where
  r := 0x112AFF1AAE5BE7BE2E6CBB7BCB82593EF345D52E9EDDDCD45BCA6D142C1BB997
  s := 0xA769E881D6FD8671F740765904F8591F256E92499709058067D9393EC8DE5CA5
  r_lt := by norm_num
  s_lt := by norm_num

def sampleSpki : Bytes :=
  [0x30, 0x59, 0x30, 0x13, 0x06, 0x07, 0x2a, 0x86, 0x48, 0xce, 0x3d, 0x02, 0x01, 0x06, 0x08, 0x2a,
    0x86, 0x48, 0xce, 0x3d, 0x03, 0x01, 0x07, 0x03, 0x42, 0x00, 0x04, 0xbf, 0xa9, 0x7d, 0x06, 0xf7,
    0x11, 0x73, 0x52, 0xe3, 0xfe, 0x0b, 0x2c, 0x4c, 0xaf, 0x64, 0x15, 0xcb, 0x85, 0x58, 0x18, 0x08,
    0x57, 0x99, 0x47, 0x69, 0xc0, 0x87, 0x60, 0xb0, 0x7c, 0xf9, 0x49, 0x53, 0x0e, 0x5c, 0xf2, 0xc3,
    0xf7, 0xa6, 0x1e, 0xf1, 0x1e, 0x45, 0x98, 0xd4, 0x59, 0xca, 0x9b, 0xa2, 0x23, 0xbf, 0xf1, 0xe8,
    0x33, 0x9a, 0x36, 0xbe, 0xc2, 0x97, 0xb5, 0x54, 0xc9, 0xb6, 0xb7]

def sampleBrowser : WebCrypto := ⟨fun _ => sampleSignature, sampleSpki⟩

/-- The key is its encoding, and the one good signature is accepted. -/
def sampleJava : JavaSecurity where
  PublicKey := Bytes
  generatePublic key :=
    if key = sampleSpki then .ok key else .error (js "java.security.InvalidKeyException")
  verify _ _ candidate :=
    if candidate = sampleSignature.derBytes then .ok true
    else .error (js "Could not verify signature")
  illegalBase64 _ := js "Illegal base64 character"

/-- The order of the group of P-256. -/
def groupOrder : ℕ := 0xFFFFFFFF00000000FFFFFFFFFFFFFFFFBCE6FAADA7179E84F3B9CAC2FC632551

/-- The second signature that verifies whenever the first one does. -/
def mirroredSignature : EcdsaSignature where
  r := sampleSignature.r
  s := groupOrder - sampleSignature.s
  r_lt := sampleSignature.r_lt
  s_lt := by norm_num [groupOrder, sampleSignature]

def sampleMessage : Bytes :=
  getBytes (payloadString (js "1 Main Street") (js "0900000000") (js "1700000000000"))

/-- The two signatures of the text verify, and nothing else does. -/
def SampleEquation (publicKey message : Bytes) (read : EcdsaSignature) : Prop :=
  publicKey = sampleSpki ∧ message = sampleMessage ∧
    (read = sampleSignature ∨ read = mirroredSignature)

def derJava : JavaSecurity where
  PublicKey := Bytes
  generatePublic key :=
    if key = sampleSpki then .ok key else .error (js "java.security.InvalidKeyException")
  verify publicKey message candidate :=
    if publicKey = sampleSpki ∧ message = sampleMessage ∧
        (candidate = sampleSignature.derBytes ∨ candidate = mirroredSignature.derBytes) then
      .ok true
    else .error (js "Could not verify signature")
  illegalBase64 _ := js "Illegal base64 character"

theorem verifiesDer_derJava : VerifiesDer derJava SampleEquation := by
  intro publicKey message candidate
  have hverify : derJava.verify publicKey message candidate = .ok true ↔
      publicKey = sampleSpki ∧ message = sampleMessage ∧
        (candidate = sampleSignature.derBytes ∨ candidate = mirroredSignature.derBytes) := by
    simp only [derJava]
    split
    · rename_i haccepted
      exact iff_of_true rfl haccepted
    · rename_i hrefused
      exact iff_of_false (by simp) hrefused
  rw [hverify]
  constructor
  · rintro ⟨hkey, hmessage, rfl | rfl⟩
    · exact ⟨sampleSignature, rfl, hkey, hmessage, .inl rfl⟩
    · exact ⟨mirroredSignature, rfl, hkey, hmessage, .inr rfl⟩
  · rintro ⟨read, rfl, hkey, hmessage, rfl | rfl⟩
    · exact ⟨hkey, hmessage, .inl rfl⟩
    · exact ⟨hkey, hmessage, .inr rfl⟩

theorem generatePublic_derJava :
    derJava.generatePublic sampleBrowser.exportSpki = .ok sampleSpki := by
  simp [derJava, sampleBrowser]

/-- The first block of the signature does not begin like a DER sequence. -/
theorem rawBytes_sampleSignature (read : EcdsaSignature) :
    sampleSignature.rawBytes ≠ read.derBytes := by
  intro hraw
  have hfirst := EcdsaSignature.r_div_of_rawBytes_eq_derBytes hraw
  norm_num [sampleSignature] at hfirst

theorem confirmPayment_passes_iff_sample :
    ¬ PassesSignatureCheck derJava sampleBrowser (js "1 Main Street") (js "0900000000")
      (js "1700000000000") := by
  rw [confirmPayment_passes_iff derJava SampleEquation sampleBrowser sampleSpki (js "1 Main Street")
    (js "0900000000") (js "1700000000000") verifiesDer_derJava generatePublic_derJava]
  rintro ⟨read, -, hraw, -⟩
  exact rawBytes_sampleSignature read hraw

/-- The numbers that the browser computed verify, and the checkout fails. -/
theorem confirmPayment_rejected :
    ¬ ∀ (java : JavaSecurity) (equation : java.PublicKey → Bytes → EcdsaSignature → Prop)
      (browser : WebCrypto) (publicKey : java.PublicKey) (address phone timestamp : JString),
      VerifiesDer java equation → java.generatePublic browser.exportSpki = .ok publicKey →
      equation publicKey (getBytes (payloadString address phone timestamp))
        (browserSignature browser address phone timestamp) →
      PassesSignatureCheck java browser address phone timestamp := by
  intro hpasses
  have hsample := hpasses derJava SampleEquation sampleBrowser sampleSpki (js "1 Main Street")
    (js "0900000000") (js "1700000000000") verifiesDer_derJava generatePublic_derJava
    ⟨rfl, rfl, .inl rfl⟩
  obtain ⟨read, hraw, -⟩ := (verifiesDer_derJava _ _ _).mp
    ((passesSignatureCheck_iff generatePublic_derJava).mp hsample)
  exact rawBytes_sampleSignature read hraw

end ShoppingWeb.Checkout
