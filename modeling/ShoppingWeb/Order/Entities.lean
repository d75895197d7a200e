import ShoppingWeb.Lib.Table
import ShoppingWeb.Shared.ServiceException
import ShoppingWeb.Shared.TransactionContext

/-!
# Entities of the order service

The rows of the three order tables, and the converter that encrypts two of
their columns.  The cryptographic primitives are parameters.
-/

namespace ShoppingWeb.OrderService

open ShoppingWeb.Utf16
open ShoppingWeb.Shared

/-- The primitives of `java.security` and `javax.crypto`, on bytes. -/
structure Crypto where
  sha256 : Bytes → Bytes
  hmacSha256 : (key message : Bytes) → Bytes
  aesGcmSeal : (key iv plaintext : Bytes) → Bytes

structure Order where
  id : ℤ
  trackingNumber : JString
  userId : JString
  totalAmount : BigDecimal
  status : JString
  createdAt : ℤ
  deriving DecidableEq, Repr

instance : Keyed Order where
  key := Order.id
  withKey id order := { order with id }
  key_withKey _ _ := rfl

structure OrderItem where
  id : ℤ
  orderId : ℤ
  productId : ℤ
  productName : JString
  quantity : Int32
  price : BigDecimal
  deriving DecidableEq, Repr

instance : Keyed OrderItem where
  key := OrderItem.id
  withKey id item := { item with id }
  key_withKey _ _ := rfl

/-- The two encrypted columns hold what the converter wrote. -/
structure ShippingInfo where
  id : ℤ
  orderId : ℤ
  customerName : JString
  encryptedAddress : JString
  encryptedPhone : JString
  phoneBlindIndex : JString
  deriving DecidableEq, Repr

instance : Keyed ShippingInfo where
  key := ShippingInfo.id
  withKey id info := { info with id }
  key_withKey _ _ := rfl

structure OrderTables where
  orders : Table Order
  orderItems : Table OrderItem
  shippingInfos : Table ShippingInfo

namespace OrderTables

def empty : OrderTables := ⟨.empty, .empty, .empty⟩

/-- Undo a transaction that started at `before`. -/
def rollBack (before after : OrderTables) : OrderTables where
  orders := before.orders.rollBack after.orders
  orderItems := before.orderItems.rollBack after.orderItems
  shippingInfos := before.shippingInfos.rollBack after.shippingInfos

/-- The contents of the three tables. -/
def contents (tables : OrderTables) : List Order × List OrderItem × List ShippingInfo :=
  (tables.orders.rows, tables.orderItems.rows, tables.shippingInfos.rows)

end OrderTables

/-- `AesCryptoConverter.convertToDatabaseColumn` with the IV it draws. -/
def convertToDatabaseColumn (crypto : Crypto) (encryptionKey : JString) (iv : Bytes)
    (text : Option JString) : Option JString :=
  text.map fun text =>
    Base64.encode (iv ++ crypto.aesGcmSeal (getBytes encryptionKey) iv (getBytes text))

/-- `AesCryptoConverter.convertToEntityAttribute`; `aesGcmOpen` fails when the
tag does not match, and a text shorter than an IV makes its arrays fail. -/
def convertToEntityAttribute (aesGcmOpen : (key iv ciphertext : Bytes) → Option Bytes)
    (encryptionKey : JString) : Option JString → Except ServiceException (Option JString)
  | none => .ok none
  | some dbData =>
      let plainText := (Base64.decode dbData).bind fun ivAndCipherText =>
        if ivAndCipherText.length < 12 then none
        else aesGcmOpen (getBytes encryptionKey) (ivAndCipherText.take 12)
          (ivAndCipherText.drop 12)
      match plainText with
      | some plainText => .ok (some (newString plainText))
      | none => .error (.runtime (js "Failed to decrypt data (AES-GCM)"))

end ShoppingWeb.OrderService
