import SuShareApp.Double
import Mathlib.Data.String.Basic

/-!
# Firestore values and the app's models

A Firestore document reaches the app as a dictionary from field names to values, and the
model initializers (`SuShare.init`, `User.init`) read it field by field : a missing
field, or one of another type, silently becomes a default. The encoders are separate
field lists in `DatabaseService`, so a field that a decoder spells differently is lost
without an error.

Numbers are read back at the type they were stored with. The bridging of `NSNumber`
between `Int`, `Double` and `Bool` is not modelled : no field of the app is written at
one of these types and read at another.
-/

namespace SuShareApp

/-! ## Values -/

/-- A Firestore `Timestamp`. -/
structure Timestamp where
  seconds : ℤ
  nanoseconds : ℕ
deriving DecidableEq, Repr

/-- `dateValue()`, as nanoseconds since the epoch. -/
def Timestamp.dateValue (t : Timestamp) : ℤ :=
  t.seconds * 1000000000 + t.nanoseconds

/-- `TimestampInternal::Truncate` : the whole microseconds, which are all that the client writes
of a timestamp into a document. -/
def Timestamp.truncate (t : Timestamp) : Timestamp :=
  ⟨t.seconds, t.nanoseconds / 1000 * 1000⟩

@[simp] theorem Timestamp.truncate_truncate (t : Timestamp) :
    t.truncate.truncate = t.truncate := by
  simp [truncate]

/-- The value of a document's field. -/
inductive FieldValue
  | string (s : String)
  | double (d : Double)
  | int (n : ℤ)
  | bool (b : Bool)
  | timestamp (t : Timestamp)
  | ints (l : List ℤ)
  | strings (l : List String)
deriving DecidableEq, Repr

namespace FieldValue

/-- `as? String` -/
def asString : FieldValue → Option String
  | .string s => some s
  | _ => none

/-- `as? Double` -/
def asDouble : FieldValue → Option Double
  | .double d => some d
  | _ => none

/-- `as? Int` -/
def asInt : FieldValue → Option ℤ
  | .int n => some n
  | _ => none

/-- `as? Bool` -/
def asBool : FieldValue → Option Bool
  | .bool b => some b
  | _ => none

/-- `as? Timestamp` -/
def asTimestamp : FieldValue → Option Timestamp
  | .timestamp t => some t
  | _ => none

/-- `as? [Int]`. An empty array has no element of another type. -/
def asInts : FieldValue → Option (List ℤ)
  | .ints l => some l
  | .strings [] => some []
  | _ => none

/-- `as? [String]` -/
def asStrings : FieldValue → Option (List String)
  | .strings l => some l
  | .ints [] => some []
  | _ => none

end FieldValue

/-- A document's data, `[String: Any]`. -/
abbrev Dictionary := String → Option FieldValue

namespace Dictionary

/-- A dictionary literal. -/
def ofList (fields : List (String × FieldValue)) : Dictionary := fun key =>
  (fields.find? fun f => f.1 = key).map Prod.snd

/-- The document after the listed fields were updated. -/
def updating (d : Dictionary) (fields : Dictionary) : Dictionary := fun key =>
  fields key <|> d key

/-- `dictionary[key] as? T ?? fallback` -/
def read {α : Type} (d : Dictionary) (key : String) (as : FieldValue → Option α) (fallback : α) :
    α :=
  ((d key).bind as).getD fallback

@[simp] theorem ofList_nil (key : String) : ofList [] key = none :=
  rfl

@[simp] theorem ofList_cons (k : String) (v : FieldValue) (fields : List (String × FieldValue))
    (key : String) :
    ofList ((k, v) :: fields) key = if key = k then some v else ofList fields key := by
  by_cases h : key = k
  · simp [ofList, h]
  · simp [ofList, h, Ne.symm h]

theorem updating_of_none {d fields : Dictionary} {key : String} (h : fields key = none) :
    d.updating fields key = d key := by
  simp [updating, h]

theorem updating_of_some {d fields : Dictionary} {key : String} {v : FieldValue}
    (h : fields key = some v) : d.updating fields key = some v := by
  simp [updating, h]

theorem read_of_some {α : Type} {d : Dictionary} {key : String} {as : FieldValue → Option α}
    {fallback x : α} {v : FieldValue} (h : d key = some v) (hv : as v = some x) :
    d.read key as fallback = x := by
  simp [read, h, hv]

end Dictionary

/-! ## SuShare -/

/-- The privacy switch of the create form. -/
inductive Security
  | privateState
  | publicState
deriving DecidableEq, Repr

def Security.rawValue : Security → String
  | .privateState => "privateState"
  | .publicState => "publicState"

/-- The categories of the create form, by raw value. -/
inductive Category
  | technology
  | payments
  | travel
  | furniture
  | renovations
  | miscellaneous
deriving DecidableEq, Repr

def Category.rawValue : Category → ℤ
  | .technology => 0
  | .payments => 1
  | .travel => 2
  | .furniture => 3
  | .renovations => 4
  | .miscellaneous => 5

def Category.allCases : List Category :=
  [.technology, .payments, .travel, .furniture, .renovations, .miscellaneous]

def Category.categoryNames : List (Category × String) := [
  (.technology, "technology"),
  (.payments, "payments"),
  (.travel, "travel"),
  (.furniture, "furniture"),
  (.renovations, "renovations"),
  (.miscellaneous, "miscellaneous")]

def Category.categoryName (category : Category) : String :=
  (categoryNames.lookup category).getD "Minion inside of category enum"

/-- A su-su as the screens hold it. -/
structure SuShare where
  securityState : String
  susuTitle : String
  imageURL : String
  suShareDescription : String
  potAmount : Double
  numOfParticipants : ℤ
  paymentSchedule : String
  userId : String
  category : List ℤ
  createdDate : Timestamp
  suShareId : String
  usersInTheSuShare : List String
  isTheSuShareFlagged : Bool
  /-- Set after creation, by `addToFavorites`. -/
  favId : String
deriving DecidableEq, Repr

/-- `SuShare.init(_:)`. `now` is the clock that a missing creation date falls back on. -/
def SuShare.init (now : Timestamp) (dictionary : Dictionary) : SuShare where
  securityState := dictionary.read "securityState" FieldValue.asString "No securityState"
  susuTitle := dictionary.read "susuTitle" FieldValue.asString "No Title"
  imageURL := dictionary.read "imageURL" FieldValue.asString " no image url"
  suShareDescription := dictionary.read "suShareDescription" FieldValue.asString "No Description"
  potAmount := dictionary.read "potAmount" FieldValue.asDouble (.finite 0)
  numOfParticipants := dictionary.read "numOfParticipants" FieldValue.asInt 0
  paymentSchedule := dictionary.read "paymentSchedule" FieldValue.asString ""
  userId := dictionary.read "userId" FieldValue.asString ""
  category := dictionary.read "category" FieldValue.asInts []
  createdDate := dictionary.read "createdDate" FieldValue.asTimestamp now
  suShareId := dictionary.read "suShareId" FieldValue.asString ""
  usersInTheSuShare := dictionary.read "usersInTheSuShare" FieldValue.asStrings [""]
  isTheSuShareFlagged := dictionary.read "isTheSuShareFlagged" FieldValue.asBool false
  favId := dictionary.read "favId" FieldValue.asString ""

/-- `sushare.usersInTheSuShare.append(uid)`, on a copy of the value. -/
def SuShare.appendingUser (s : SuShare) (uid : String) : SuShare :=
  { s with usersInTheSuShare := s.usersInTheSuShare ++ [uid] }

/-! ## Users -/

/-- The signed-in Firebase user, `Auth.auth().currentUser`. -/
structure AuthUser where
  uid : String
  displayName : Option String
  email : Option String
deriving DecidableEq, Repr

/-- A user's profile. -/
structure User where
  username : String
  email : String
  userId : String
  profilePhoto : String
  fullName : String
  stripeCustomerId : String
deriving DecidableEq, Repr

/-- `User.init(_:)` -/
def User.init (dictionary : Dictionary) : User where
  username := dictionary.read "username" FieldValue.asString "No username"
  email := dictionary.read "email" FieldValue.asString "No Email"
  userId := dictionary.read "userId" FieldValue.asString "No user id"
  profilePhoto := dictionary.read "photoURL" FieldValue.asString "No profile Photo"
  fullName := dictionary.read "fullName" FieldValue.asString "No full name avaiable"
  stripeCustomerId :=
    dictionary.read "stripeCustomerId" FieldValue.asString "no Stripe Id has been made"

/-! ## Updates and comments -/

/-- The notice to the owner of a SuShare that somebody joined. -/
structure Update where
  userId : String
  createdAt : Timestamp
  userJoined : String
  susuTitle : String
  userJoinedPhoto : String
  updateId : String
deriving DecidableEq, Repr

/-- `Update.init(_:)` -/
def Update.init (now : Timestamp) (dictionary : Dictionary) : Update where
  userId := dictionary.read "userId" FieldValue.asString "No user id"
  createdAt := dictionary.read "createdAt" FieldValue.asTimestamp now
  userJoined := dictionary.read "userJoined" FieldValue.asString "No user joined"
  susuTitle := dictionary.read "susuTitle" FieldValue.asString "No title"
  userJoinedPhoto := dictionary.read "userJoinedPhoto" FieldValue.asString "no photo"
  updateId := dictionary.read "updateId" FieldValue.asString "no id"

structure Comment where
  commentDate : Timestamp
  commentedBy : String
  susuId : String
  susuName : String
  creatorName : String
  comment : String
deriving DecidableEq, Repr

/-- `Comment.init(_:)`. Three of its keys are not those that `postComment` writes. -/
def Comment.init (now : Timestamp) (dictionary : Dictionary) : Comment where
  commentDate := dictionary.read "commentDate" FieldValue.asTimestamp now
  commentedBy := dictionary.read "commentedBy" FieldValue.asString "no commentedBy name"
  susuId := dictionary.read "itemId" FieldValue.asString "no susuId"
  susuName := dictionary.read "itemName" FieldValue.asString "no susuName"
  creatorName := dictionary.read "sellerName" FieldValue.asString "no creatorName"
  comment := dictionary.read "comment" FieldValue.asString "no comment"

end SuShareApp
