import Usteer.Model

/-!
What netifd tells about a wireless interface (`netifd.c`). The reply to
`network.wireless status` holds a table for each radio, a radio an array of interfaces,
and an interface its name and its configuration. The functions below go through a reply as
the code does, taking over `maxassoc` from every interface with the node's name;
`netifdStatusCb_eq` says that the last such interface decides.
-/
namespace Usteer

/-- A value in a ubus message. -/
inductive Blobmsg where
  | table (members : List (CString × Blobmsg))
  | array (elements : List Blobmsg)
  | string (text : CString)
  | int32 (value : UInt32)
  | other

namespace Blobmsg

/-- A value of `BLOBMSG_TYPE_TABLE`. -/
def asTable : Blobmsg → Option (List (CString × Blobmsg))
  | table members => some members
  | _ => none

/-- A value of `BLOBMSG_TYPE_ARRAY`. -/
def asArray : Blobmsg → Option (List Blobmsg)
  | array elements => some elements
  | _ => none

/-- A value of `BLOBMSG_TYPE_STRING`. -/
def asString : Blobmsg → Option CString
  | string text => some text
  | _ => none

/-- A value of `BLOBMSG_TYPE_INT32`. -/
def asInt32 : Blobmsg → Option UInt32
  | int32 value => some value
  | _ => none

/-- What `blobmsg_parse` finds for a policy: the first member with its name and type. -/
def parse {α : Type} (members : List (CString × Blobmsg)) (name : CString) (type : Blobmsg → Option α) : Option α :=
  members.findSome? fun member => if member.1 = name then type member.2 else none

end Blobmsg

/-- `"maxassoc"` -/
def maxassocName : CString := [109, 97, 120, 97, 115, 115, 111, 99]

/-- `"config"` -/
def configName : CString := [99, 111, 110, 102, 105, 103]

/-- `"ifname"` -/
def ifnameName : CString := [105, 102, 110, 97, 109, 101]

/-- `"interfaces"` -/
def interfacesName : CString := [105, 110, 116, 101, 114, 102, 97, 99, 101, 115]

/-- What the reply is read into: `node.max_assoc` and `netifd.status_complete`. -/
structure NetifdStatus where
  maxAssoc : Int32
  statusComplete : Bool
  deriving DecidableEq, Repr

/-- `netifd_parse_interface_config` -/
def netifdParseInterfaceConfig (msg : List (CString × Blobmsg)) : NetifdStatus :=
  ⟨((Blobmsg.parse msg maxassocName Blobmsg.asInt32).getD 0).toInt32, true⟩

/-- `netifd_parse_interface` -/
def netifdParseInterface (iface : CString) (ln : NetifdStatus) (msg : Blobmsg) : NetifdStatus :=
  match msg.asTable with
  | none => ln
  | some members =>
    match Blobmsg.parse members configName Blobmsg.asTable, Blobmsg.parse members ifnameName Blobmsg.asString with
    | some config, some name => if name ≠ iface then ln else netifdParseInterfaceConfig config
    | _, _ => ln

/-- `netifd_parse_radio` -/
def netifdParseRadio (iface : CString) (ln : NetifdStatus) (msg : Blobmsg) : NetifdStatus :=
  match msg.asTable with
  | none => ln
  | some members =>
    match Blobmsg.parse members interfacesName Blobmsg.asArray with
    | none => ln
    | some interfaces => interfaces.foldl (netifdParseInterface iface) ln

/-- `netifd_status_cb`, which iterates over the radios of a reply. -/
def netifdStatusCb (iface : CString) (ln : NetifdStatus) (msg : List Blobmsg) : NetifdStatus :=
  msg.foldl (netifdParseRadio iface) ln

/-! ### What a reply says -/

/-- An interface of a reply: its name and its `maxassoc`, 0 when it has none. -/
structure Listing where
  name : CString
  maxAssoc : Int32
  deriving DecidableEq, Repr

/-- The interface that a value describes. -/
def Blobmsg.listing (msg : Blobmsg) : Option Listing := do
  let members ← msg.asTable
  let config ← parse members configName asTable
  let name ← parse members ifnameName asString
  return ⟨name, ((parse config maxassocName asInt32).getD 0).toInt32⟩

/-- The interfaces of a radio. -/
def Blobmsg.listings (msg : Blobmsg) : List Listing :=
  ((msg.asTable.bind fun members => parse members interfacesName asArray).getD []).filterMap listing

/-- The values of `maxassoc` that are meant for an interface. -/
def ofInterface (iface : CString) (listings : List Listing) : List Int32 :=
  (listings.filter (fun listing => listing.name = iface)).map Listing.maxAssoc

/-- Those in a reply. -/
def limitsFor (iface : CString) (msg : List Blobmsg) : List Int32 := ofInterface iface (msg.flatMap Blobmsg.listings)

/-- The status after the values that a node was given. -/
def NetifdStatus.after (ln : NetifdStatus) (limits : List Int32) : NetifdStatus :=
  match limits.getLast? with
  | none => ln
  | some limit => ⟨limit, true⟩

section Parse

variable {iface : CString} {ln : NetifdStatus}

@[simp] theorem NetifdStatus.after_nil : ln.after [] = ln := rfl

theorem NetifdStatus.after_append (first second : List Int32) : ln.after (first ++ second) = (ln.after first).after second := by
  unfold after
  rw [List.getLast?_append]
  cases second.getLast? with
  | none => rfl
  | some limit => rfl

theorem ofInterface_append (first second : List Listing) :
    ofInterface iface (first ++ second) = ofInterface iface first ++ ofInterface iface second := by
  simp [ofInterface]

theorem netifdParseInterface_eq (msg : Blobmsg) :
    netifdParseInterface iface ln msg = ln.after (ofInterface iface msg.listing.toList) := by
  unfold netifdParseInterface Blobmsg.listing
  cases msg.asTable with
  | none => rfl
  | some members =>
    cases config : Blobmsg.parse members configName Blobmsg.asTable with
    | none => simp [config, ofInterface]
    | some config' =>
      cases name : Blobmsg.parse members ifnameName Blobmsg.asString with
      | none => simp [config, name, ofInterface]
      | some name' =>
        by_cases same : name' = iface
        · simp [config, name, same, ofInterface, NetifdStatus.after, netifdParseInterfaceConfig]
        · simp [config, name, same, ofInterface]

theorem netifdParseInterfaces_eq (interfaces : List Blobmsg) :
    interfaces.foldl (netifdParseInterface iface) ln = ln.after (ofInterface iface (interfaces.filterMap Blobmsg.listing)) := by
  induction interfaces generalizing ln with
  | nil => rfl
  | cons msg rest ih =>
    rw [List.foldl_cons, ih, netifdParseInterface_eq, ← NetifdStatus.after_append, ← ofInterface_append]
    congr 2
    cases described : msg.listing with
    | none => simp [described]
    | some listing => simp [described]

theorem netifdParseRadio_eq (msg : Blobmsg) :
    netifdParseRadio iface ln msg = ln.after (ofInterface iface msg.listings) := by
  unfold netifdParseRadio Blobmsg.listings
  cases msg.asTable with
  | none => rfl
  | some members =>
    cases listed : Blobmsg.parse members interfacesName Blobmsg.asArray with
    | none => simp [listed, ofInterface]
    | some interfaces => simp [listed, netifdParseInterfaces_eq]

/-- A reply sets the limit to the one of the last interface with the name, over all
    radios, and changes nothing when there is none. -/
theorem netifdStatusCb_eq (msg : List Blobmsg) : netifdStatusCb iface ln msg = ln.after (limitsFor iface msg) := by
  unfold netifdStatusCb limitsFor
  induction msg generalizing ln with
  | nil => rfl
  | cons radio rest ih =>
    rw [List.foldl_cons, ih, netifdParseRadio_eq, ← NetifdStatus.after_append, ← ofInterface_append, List.flatMap_cons]

end Parse

end Usteer
