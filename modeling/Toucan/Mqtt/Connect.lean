import Toucan.Mqtt.Publish

/-!
# Toucan.Mqtt.Connect

The requests that only the client sends (`rust-mqtt`, `packet/v5`): CONNECT with its
optional will, user name and password, SUBSCRIBE and UNSUBSCRIBE.

The parts of a CONNECT that are written, and those that are counted, are both chosen
by the bits of `connect_flags`.
-/

namespace Toucan.Mqtt

open HttpMessage BuffWriter

/-! ## CONNECT -/

structure ConnectPacket (cap willCap : Nat) where
  fixedHeader : UInt8
  remainLen : UInt32
  protocolNameLen : UInt16
  protocolName : UInt32
  protocolVersion : UInt8
  connectFlags : UInt8
  keepAlive : UInt16
  propertyLen : UInt32
  properties : BoundedVec Property cap
  clientId : EncodedString
  willPropertyLen : UInt32
  willProperties : BoundedVec Property willCap
  willTopic : EncodedString
  willPayload : BinaryData
  username : EncodedString
  password : BinaryData
deriving DecidableEq

namespace ConnectPacket

def new : ConnectPacket cap willCap where
  fixedHeader := PacketType.connect.toU8
  remainLen := 0
  protocolNameLen := 4
  protocolName := 0x4d515454
  protocolVersion := 5
  connectFlags := 0x02
  keepAlive := 180
  propertyLen := 0
  properties := .empty
  clientId := .new
  willPropertyLen := 0
  willProperties := .empty
  willTopic := .new
  willPayload := .new
  username := .new
  password := .new

def addUsername (self : ConnectPacket cap willCap) (username : EncodedString) :
    ConnectPacket cap willCap :=
  { self with username, connectFlags := self.connectFlags ||| 0x80 }

def addPassword (self : ConnectPacket cap willCap) (password : BinaryData) :
    ConnectPacket cap willCap :=
  { self with password, connectFlags := self.connectFlags ||| 0x40 }

def addWill (self : ConnectPacket cap willCap) (topic : EncodedString) (payload : BinaryData)
    (retain : Bool) : ConnectPacket cap willCap :=
  { self with
    willTopic := topic
    willPayload := payload
    connectFlags :=
      if retain then self.connectFlags ||| 0x04 ||| 0x20 else self.connectFlags ||| 0x04 }

def addClientId (self : ConnectPacket cap willCap) (id : EncodedString) :
    ConnectPacket cap willCap :=
  { self with clientId := id }

def hasWill (self : ConnectPacket cap willCap) : Prop := self.connectFlags &&& 0x04 ≠ 0

def hasUsername (self : ConnectPacket cap willCap) : Prop := self.connectFlags &&& 0x80 ≠ 0

def hasPassword (self : ConnectPacket cap willCap) : Prop := self.connectFlags &&& 0x40 ≠ 0

instance (self : ConnectPacket cap willCap) : Decidable self.hasWill :=
  inferInstanceAs (Decidable (_ ≠ _))

instance (self : ConnectPacket cap willCap) : Decidable self.hasUsername :=
  inferInstanceAs (Decidable (_ ≠ _))

instance (self : ConnectPacket cap willCap) : Decidable self.hasPassword :=
  inferInstanceAs (Decidable (_ ≠ _))

/-- What `encode` counts for the will. -/
def willLen (self : ConnectPacket cap willCap) : Except Fault UInt32 :=
  if self.hasWill then
    (propertyLenLen self.willPropertyLen).map fun n => n + self.willPropertyLen +
      self.willTopic.len.toUInt32 + 2 + self.willPayload.len.toUInt32 + 2
  else .ok 0

def usernameLen (self : ConnectPacket cap willCap) : UInt32 :=
  if self.hasUsername then self.username.len.toUInt32 + 2 else 0

def passwordLen (self : ConnectPacket cap willCap) : UInt32 :=
  if self.hasPassword then self.password.len.toUInt32 + 2 else 0

def writeWill (self : ConnectPacket cap willCap) : Method BuffWriter Fault Unit := do
  writeVariableByteInt self.willPropertyLen
  writeProperties self.willProperties.toList
  writeStringRef self.willTopic
  writeBinaryRef self.willPayload

/-- The part of `encode` behind the length. -/
def writeBody (self : ConnectPacket cap willCap) : Method BuffWriter Fault Unit := do
  writeU16 self.protocolNameLen
  writeU32 self.protocolName
  writeU8 self.protocolVersion
  writeU8 self.connectFlags
  writeU16 self.keepAlive
  writeVariableByteInt self.propertyLen
  writeProperties self.properties.toList
  writeStringRef self.clientId
  if self.hasWill then self.writeWill
  if self.hasUsername then writeStringRef self.username
  if self.hasPassword then writeBinaryRef self.password

def write (self : ConnectPacket cap willCap) : Method BuffWriter Fault Unit := do
  let n ← ofExcept (propertyLenLen self.propertyLen)
  let rmLn := self.propertyLen + n + 10 + self.clientId.len.toUInt32 + 2
  let willLen ← ofExcept self.willLen
  let rmLn := rmLn + willLen + self.usernameLen + self.passwordLen
  writeU8 self.fixedHeader
  writeVariableByteInt rmLn
  self.writeBody

def encode (self : ConnectPacket cap willCap) := encodeWith self.write

/-! ### What is written -/

def willBytes (self : ConnectPacket cap willCap) : List UInt8 :=
  if self.hasWill then
    propertyBlock self.willProperties.toList ++ (self.willTopic.bytes ++ self.willPayload.bytes)
  else []

def usernameBytes (self : ConnectPacket cap willCap) : List UInt8 :=
  if self.hasUsername then self.username.bytes else []

def passwordBytes (self : ConnectPacket cap willCap) : List UInt8 :=
  if self.hasPassword then self.password.bytes else []

/-- The ten bytes before the properties. -/
def variableHeader (self : ConnectPacket cap willCap) : List UInt8 :=
  toBeBytes self.protocolNameLen ++ (toBeBytes32 self.protocolName ++ ([self.protocolVersion] ++
    ([self.connectFlags] ++ toBeBytes self.keepAlive)))

/-- The packet behind its length. -/
def body (self : ConnectPacket cap willCap) : List UInt8 :=
  self.variableHeader ++ (propertyBlock self.properties.toList ++ (self.clientId.bytes ++
    (self.willBytes ++ (self.usernameBytes ++ self.passwordBytes))))

/-- Parts that have the lengths they say. -/
structure Parts (p : ConnectPacket cap willCap) : Prop where
  announced : Announced p.propertyLen p.properties.toList
  clientId : p.clientId.Fits
  willAnnounced : Announced p.willPropertyLen p.willProperties.toList
  willTopic : p.willTopic.Fits
  willPayload : p.willPayload.Fits
  username : p.username.Fits
  password : p.password.Fits

/-- A packet that is short enough for its length to be written. -/
structure WellFormed (p : ConnectPacket cap willCap) : Prop extends Parts p where
  length_le : p.body.length ≤ 268435455

theorem announced_nil : Announced 0 [] := ⟨by simp, rfl⟩

theorem parts_new : (new : ConnectPacket cap willCap).Parts := by
  have htext : EncodedString.new.Fits := Nat.zero_le _
  have hdata : BinaryData.new.Fits := Nat.zero_le _
  exact ⟨announced_nil, htext, announced_nil, htext, hdata, htext, hdata⟩

section Setters

variable {p : ConnectPacket cap willCap} (h : p.Parts)

include h

theorem Parts.addUsername {username : EncodedString} (hu : username.Fits) :
    (p.addUsername username).Parts := { h with username := hu }

theorem Parts.addPassword {password : BinaryData} (hp : password.Fits) :
    (p.addPassword password).Parts := { h with password := hp }

theorem Parts.addWill {topic : EncodedString} {payload : BinaryData} (ht : topic.Fits)
    (hp : payload.Fits) (retain : Bool) : (p.addWill topic payload retain).Parts :=
  { h with willTopic := ht, willPayload := hp }

theorem Parts.addClientId {id : EncodedString} (hi : id.Fits) : (p.addClientId id).Parts :=
  { h with clientId := hi }

/-- A setter that is called where a flag is set. -/
theorem Parts.optional {q : ConnectPacket cap willCap} (hq : q.Parts) (b : Bool) :
    (if b then q else p).Parts := by
  cases b
  · exact h
  · exact hq

end Setters

theorem length_body (self : ConnectPacket cap willCap) :
    self.body.length = 10 + (propertyBlock self.properties.toList).length +
      self.clientId.bytes.length + self.willBytes.length + self.usernameBytes.length +
        self.passwordBytes.length := by
  have hheader : self.variableHeader.length = 10 := by
    simp [variableHeader, toBeBytes32, toBeBytes]
  simp only [body, List.length_append, hheader]
  omega

/-- Five texts or data of a `u16` at most, next to the properties. -/
theorem Parts.length_body_le {p : ConnectPacket cap willCap} (h : p.Parts)
    (hnone : p.willProperties.toList = []) :
    p.body.length ≤ (propertyBytes p.properties.toList).length + 400000 := by
  have hblock (ps : List Property) : (propertyBlock ps).length ≤ 4 + (propertyBytes ps).length := by
    rw [propertyBlock, List.length_append]
    exact Nat.add_le_add_right (VarInt.length_encode_le 4 _) _
  have hprops := hblock p.properties.toList
  have hclient := EncodedString.length_bytes h.clientId
  have hclient' := p.clientId.len.toNat_lt
  have huser : p.usernameBytes.length ≤ 65537 := by
    have hlt := p.username.len.toNat_lt
    rw [usernameBytes]
    split
    · rw [EncodedString.length_bytes h.username]
      omega
    · exact Nat.zero_le _
  have hpassword : p.passwordBytes.length ≤ 65537 := by
    have hlt := p.password.len.toNat_lt
    rw [passwordBytes]
    split
    · rw [BinaryData.length_bytes h.password]
      omega
    · exact Nat.zero_le _
  have hwill : p.willBytes.length ≤ 131080 := by
    have htopic := p.willTopic.len.toNat_lt
    have hpayload := p.willPayload.len.toNat_lt
    have hempty : (propertyBlock []).length ≤ 4 := hblock []
    rw [willBytes]
    split
    · rw [hnone, List.length_append, List.length_append, EncodedString.length_bytes h.willTopic,
        BinaryData.length_bytes h.willPayload]
      omega
    · exact Nat.zero_le _
  rw [length_body]
  omega

section Writes

variable {self : ConnectPacket cap willCap} (h : self.WellFormed)

include h

theorem toNat_usernameLen : self.usernameLen.toNat = self.usernameBytes.length := by
  have htwo : (2 : UInt32).toNat = 2 := rfl
  have hlen := self.username.len.toNat_lt
  rw [usernameLen, usernameBytes]
  split
  · rw [EncodedString.length_bytes h.username, toNat_add, UInt16.toNat_toUInt32, htwo]
    rw [UInt16.toNat_toUInt32]
    omega
  · rfl

theorem toNat_passwordLen : self.passwordLen.toNat = self.passwordBytes.length := by
  have htwo : (2 : UInt32).toNat = 2 := rfl
  have hlen := self.password.len.toNat_lt
  rw [passwordLen, passwordBytes]
  split
  · rw [BinaryData.length_bytes h.password, toNat_add, UInt16.toNat_toUInt32, htwo]
    rw [UInt16.toNat_toUInt32]
    omega
  · rfl

theorem exists_willLen : ∃ n, self.willLen = .ok n ∧ n.toNat = self.willBytes.length := by
  have hmax := h.length_le
  rw [length_body] at hmax
  rw [willLen]
  by_cases hwill : self.hasWill
  · have hlen : self.willBytes.length = (propertyBlock self.willProperties.toList).length +
        (self.willTopic.len.toNat + 2) + (self.willPayload.len.toNat + 2) := by
      rw [willBytes, if_pos hwill, List.length_append, List.length_append,
        EncodedString.length_bytes h.willTopic, BinaryData.length_bytes h.willPayload]
      omega
    obtain ⟨n, hn, hle, hsum⟩ := toNat_propertyLenLen h.willAnnounced.toNat_eq (by omega)
    have htwo : (2 : UInt32).toNat = 2 := rfl
    have htopic : self.willTopic.len.toUInt32.toNat = self.willTopic.len.toNat :=
      UInt16.toNat_toUInt32 _
    have hpayload : self.willPayload.len.toUInt32.toNat = self.willPayload.len.toNat :=
      UInt16.toNat_toUInt32 _
    have hprops := toNat_add (a := n) (b := self.willPropertyLen) (by omega)
    have htopic' := toNat_add (a := n + self.willPropertyLen) (b := self.willTopic.len.toUInt32)
      (by omega)
    have htopic'' := toNat_add (a := n + self.willPropertyLen + self.willTopic.len.toUInt32)
      (b := 2) (by omega)
    have hpayload' := toNat_add (a := n + self.willPropertyLen + self.willTopic.len.toUInt32 + 2)
      (b := self.willPayload.len.toUInt32) (by omega)
    rw [if_pos hwill, hn]
    refine ⟨_, rfl, ?_⟩
    rw [toNat_add (by omega)]
    omega
  · rw [if_neg hwill, willBytes, if_neg hwill]
    exact ⟨0, rfl, rfl⟩

theorem writes_writeWill (hwill : self.hasWill) : sheet.Writes full self.writeWill
    (propertyBlock self.willProperties.toList ++
      (self.willTopic.bytes ++ self.willPayload.bytes)) := by
  have hmax := h.length_le
  rw [length_body] at hmax
  have hblock : (propertyBlock self.willProperties.toList).length ≤ 268435455 := by
    rw [willBytes, if_pos hwill, List.length_append] at hmax
    omega
  have hint := writes_writeVariableByteInt (n := self.willPropertyLen) (by
    rw [propertyBlock, List.length_append] at hblock
    rw [h.willAnnounced.toNat_eq]
    omega)
  rw [h.willAnnounced.toNat_eq] at hint
  rw [propertyBlock, List.append_assoc]
  exact hint.bind ((writes_writeProperties h.willAnnounced.sound).bind
    ((writes_writeStringRef h.willTopic).bind (writes_writeBinaryRef h.willPayload)))

theorem writes_writeBody : sheet.Writes full self.writeBody self.body := by
  have hmax := h.length_le
  rw [length_body] at hmax
  have hint := writes_writeVariableByteInt (n := self.propertyLen) (by
    rw [propertyBlock, List.length_append] at hmax
    rw [h.announced.toNat_eq]
    omega)
  rw [h.announced.toNat_eq] at hint
  have hoptional : sheet.Writes full (do
      if self.hasWill then self.writeWill
      if self.hasUsername then writeStringRef self.username
      if self.hasPassword then writeBinaryRef self.password)
      (self.willBytes ++ (self.usernameBytes ++ self.passwordBytes)) := by
    exact .optional (writes_writeWill h) (.optional (fun _ => writes_writeStringRef h.username)
      (.optional_last fun _ => writes_writeBinaryRef h.password))
  rw [body, variableHeader, propertyBlock]
  simp only [List.append_assoc]
  exact (writes_writeU16 _).bind ((writes_writeU32 _).bind ((writes_writeU8 _).bind
    ((writes_writeU8 _).bind ((writes_writeU16 _).bind (hint.bind
      ((writes_writeProperties h.announced.sound).bind
        ((writes_writeStringRef h.clientId).bind hoptional)))))))

/-- **CONNECT on the wire**: the length that is computed before is that of what follows,
whatever optional parts there are. -/
theorem writes_write : sheet.Writes full self.write (frame self.fixedHeader self.body) := by
  have hmax := h.length_le
  have hlen := self.length_body
  rw [hlen] at hmax
  have hblock := (toNat_propertyLenLen h.announced.toNat_eq (by omega))
  obtain ⟨n, hn, -, hsum⟩ := hblock
  obtain ⟨m, hm, hwill⟩ := exists_willLen h
  have husername := toNat_usernameLen h
  have hpassword := toNat_passwordLen h
  have hid := EncodedString.length_bytes h.clientId
  have htwo : (2 : UInt32).toNat = 2 := rfl
  have hten : (10 : UInt32).toNat = 10 := rfl
  have hid' : self.clientId.len.toUInt32.toNat = self.clientId.len.toNat :=
    UInt16.toNat_toUInt32 _
  have h₁ := toNat_add (a := self.propertyLen) (b := n) (by omega)
  have h₂ := toNat_add (a := self.propertyLen + n) (b := 10) (by omega)
  have h₃ := toNat_add (a := self.propertyLen + n + 10) (b := self.clientId.len.toUInt32) (by omega)
  have h₄ := toNat_add (a := self.propertyLen + n + 10 + self.clientId.len.toUInt32) (b := 2)
    (by omega)
  have h₅ := toNat_add (a := self.propertyLen + n + 10 + self.clientId.len.toUInt32 + 2) (b := m)
    (by omega)
  have h₆ := toNat_add (a := self.propertyLen + n + 10 + self.clientId.len.toUInt32 + 2 + m)
    (b := self.usernameLen) (by omega)
  rw [write, hn, ofExcept_ok_bind]
  simp only [hm, ofExcept_ok_bind]
  apply writes_frame _ (by omega) (writes_writeBody h)
  rw [toNat_add (by omega)]
  omega

end Writes

end ConnectPacket

/-! ## SUBSCRIBE and UNSUBSCRIBE -/

/-- SUBSCRIBE and UNSUBSCRIBE have the same fields. -/
structure FilterPacket (maxFilters cap : Nat) where
  fixedHeader : UInt8
  remainLen : UInt32
  packetIdentifier : UInt16
  propertyLen : UInt32
  properties : BoundedVec Property cap
  topicFilterLen : UInt16
  topicFilters : BoundedVec TopicFilter maxFilters
deriving DecidableEq

namespace FilterPacket

/-- The loop of `encode` from filter `lt` on: the lengths of the filters, with `more` bytes for
each; `filters` are those from `lt` on. -/
def filtersLen (more : UInt16) (topicFilterLen : UInt16) :
    List TopicFilter → Nat → UInt16 → Except Fault UInt16
  | [], _, _ => .error .panic
  | filter :: filters, lt, len =>
    let len := len + filter.filter.len + more
    if lt + 1 = topicFilterLen.toNat then .ok len
    else filtersLen more topicFilterLen filters (lt + 1) len

/-- `encode`: with `sub` there are options behind each filter. -/
def write (sub : Bool) (self : FilterPacket n cap) : Method BuffWriter Fault Unit := do
  let m ← ofExcept (propertyLenLen self.propertyLen)
  let filtersLen ← ofExcept (filtersLen (if sub then 3 else 2) self.topicFilterLen
    self.topicFilters.toList 0 0)
  let rmLn := self.propertyLen + m + 2 + filtersLen.toUInt32
  writeU8 self.fixedHeader
  writeVariableByteInt rmLn
  writeU16 self.packetIdentifier
  writeVariableByteInt self.propertyLen
  writeProperties self.properties.toList
  writeTopicFiltersRef sub self.topicFilters.toList

/-- `add_new_filter`: the count goes up even where there is no room for the filter. -/
def addFilter (self : FilterPacket n cap) (topicName : String) (subOptions : UInt8) :
    FilterPacket n cap :=
  let newFilter := ⟨⟨topicName, UInt16.ofNat (asBytes topicName).length⟩, subOptions⟩
  { self with
    topicFilters := (self.topicFilters.push newFilter).getD self.topicFilters
    topicFilterLen := self.topicFilterLen + 1 }

def filterBytes (sub : Bool) (self : FilterPacket n cap) : List UInt8 :=
  self.topicFilters.toList.flatMap (TopicFilter.bytes sub)

/-- The packet behind its length. -/
def body (sub : Bool) (self : FilterPacket n cap) : List UInt8 :=
  toBeBytes self.packetIdentifier ++ (propertyBlock self.properties.toList ++ self.filterBytes sub)

/-- A packet with filters, as many as it says, whose lengths are a `u16` together. -/
structure WellFormed (sub : Bool) (p : FilterPacket n cap) : Prop where
  announced : Announced p.propertyLen p.properties.toList
  filters : ∀ t ∈ p.topicFilters.toList, t.filter.Fits
  topicFilterLen : p.topicFilterLen.toNat = p.topicFilters.toList.length
  nonempty : 0 < p.topicFilters.toList.length
  short : (p.filterBytes sub).length < 65536
  length_le : (p.body sub).length ≤ 268435455

theorem length_bytes (sub : Bool) {t : TopicFilter} (h : t.filter.Fits) :
    (t.bytes sub).length = t.filter.len.toNat + if sub then 3 else 2 := by
  rw [TopicFilter.bytes, List.length_append, EncodedString.length_bytes h]
  cases sub <;> rfl

theorem filtersLen_eq (sub : Bool) {count : UInt16} {filters : List TopicFilter} {lt : Nat}
    {len : UInt16} (hfits : ∀ t ∈ filters, t.filter.Fits) (hpos : 0 < filters.length)
    (hcount : lt + filters.length = count.toNat)
    (hshort : len.toNat + (filters.flatMap (TopicFilter.bytes sub)).length < 65536) :
    ∃ n, filtersLen (if sub then 3 else 2) count filters lt len = .ok n ∧
      n.toNat = len.toNat + (filters.flatMap (TopicFilter.bytes sub)).length := by
  induction filters generalizing lt len with
  | nil => contradiction
  | cons t filters ih =>
      have hlen := length_bytes sub (hfits t List.mem_cons_self)
      rw [List.flatMap_cons, List.length_append] at hshort
      have hmore : (if sub then 3 else 2 : UInt16).toNat = if sub then 3 else 2 := by
        cases sub <;> rfl
      have hsum : (len + t.filter.len + (if sub then 3 else 2)).toNat =
          len.toNat + (t.bytes sub).length := by
        rw [UInt16.toNat_add, UInt16.toNat_add, hmore, hlen]
        rw [Nat.mod_eq_of_lt (show len.toNat + t.filter.len.toNat < 65536 by omega),
          ← Nat.add_assoc]
        exact Nat.mod_eq_of_lt (by omega)
      rw [filtersLen, List.flatMap_cons, List.length_append]
      by_cases hlast : lt + 1 = count.toNat
      · have hnil : filters = [] := by
          rw [List.length_cons] at hcount
          exact List.length_eq_zero_iff.mp (by omega)
        rw [hnil]
        simp only [if_pos hlast]
        exact ⟨_, rfl, by rw [hsum]; rfl⟩
      · simp only [if_neg hlast]
        rw [List.length_cons] at hcount
        have hrest : (len + t.filter.len + (if sub then 3 else 2)).toNat +
            (filters.flatMap (TopicFilter.bytes sub)).length < 65536 := by
          rw [hsum]
          omega
        obtain ⟨n, hn, hval⟩ := ih (fun u hu => hfits u (List.mem_cons_of_mem t hu)) (by omega)
          (show lt + 1 + filters.length = count.toNat by omega) hrest
        exact ⟨n, hn, by omega⟩

/-- **SUBSCRIBE and UNSUBSCRIBE on the wire**. -/
theorem writes_write {sub : Bool} {self : FilterPacket n cap} (h : self.WellFormed sub) :
    sheet.Writes full (self.write sub) (frame self.fixedHeader (self.body sub)) := by
  have hmax := h.length_le
  have hlen : (self.body sub).length = 2 + (propertyBlock self.properties.toList).length +
      (self.filterBytes sub).length := by
    rw [body, List.length_append, List.length_append, length_toBeBytes]
    omega
  obtain ⟨m, hm, -, hsum⟩ := toNat_propertyLenLen h.announced.toNat_eq (by omega)
  have hcount : 0 + self.topicFilters.toList.length = self.topicFilterLen.toNat := by
    rw [h.topicFilterLen, Nat.zero_add]
  have hshort : (0 : UInt16).toNat + (self.filterBytes sub).length < 65536 := by
    have hshort := h.short
    show 0 + _ < _
    omega
  obtain ⟨k, hk, hval⟩ := filtersLen_eq sub h.filters h.nonempty hcount hshort
  have hval' : k.toUInt32.toNat = (self.filterBytes sub).length := by
    rw [UInt16.toNat_toUInt32, hval]
    exact Nat.zero_add _
  have htwo : (2 : UInt32).toNat = 2 := rfl
  have h₁ := toNat_add (a := self.propertyLen) (b := m) (by omega)
  have h₂ := toNat_add (a := self.propertyLen + m) (b := 2) (by omega)
  have hint := writes_writeVariableByteInt (n := self.propertyLen) (by
    rw [propertyBlock, List.length_append] at hlen
    rw [h.announced.toNat_eq]
    omega)
  rw [h.announced.toNat_eq] at hint
  rw [write, hm, ofExcept_ok_bind, hk, ofExcept_ok_bind]
  apply writes_frame _ hmax
  · rw [body, propertyBlock]
    simp only [List.append_assoc]
    exact (writes_writeU16 _).bind (hint.bind ((writes_writeProperties h.announced.sound).bind
      (writes_writeTopicFiltersRef sub h.filters)))
  · rw [toNat_add (by omega)]
    omega

end FilterPacket

abbrev SubscriptionPacket := FilterPacket
abbrev UnsubscriptionPacket := FilterPacket

namespace SubscriptionPacket

def new : SubscriptionPacket n cap := ⟨PacketType.subscribe.toU8, 0, 1, 0, .empty, 0, .empty⟩

def addNewFilter (self : SubscriptionPacket n cap) (topicName : String) (qos : QualityOfService) :
    SubscriptionPacket n cap :=
  self.addFilter topicName (qos.toU8 >>> 1)

def encode (self : SubscriptionPacket n cap) := encodeWith (self.write true)

end SubscriptionPacket

namespace UnsubscriptionPacket

def new : UnsubscriptionPacket n cap := ⟨PacketType.unsubscribe.toU8, 0, 0, 0, .empty, 0, .empty⟩

def addNewFilter (self : UnsubscriptionPacket n cap) (topicName : String) :
    UnsubscriptionPacket n cap :=
  self.addFilter topicName 0x01

def encode (self : UnsubscriptionPacket n cap) := encodeWith (self.write false)

end UnsubscriptionPacket

end Toucan.Mqtt
