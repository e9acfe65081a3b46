import DeviceBus.Access.Token
import DeviceBus.Proofs.Json.Values
import DeviceBus.Proofs.Text.Base64Url

/-! # Tokens, issued and verified

Whoever knows the secret of a token reads from it the claims that were issued,
up to a minute after its expiry and not later. An expiry before the epoch is
written as one of the last numbers of 64 bits, so such a token is not refused.
-/

namespace DeviceBus

open Json

/-! ## Claims -/

namespace Claims

theorem exists_channels (channels : List String) : ∃ values,
    List.Forall₂ Reads (channels.map ofText) values ∧ values.mapM Value.text? = some channels := by
  induction channels with
  | nil => exact ⟨[], .nil, rfl⟩
  | cons channel channels ih =>
    obtain ⟨pieces, hText, hFirst⟩ := reads_ofText channel
    obtain ⟨values, hRest, hTexts⟩ := ih
    refine ⟨.string pieces :: values, .cons hFirst hRest, ?_⟩
    have hOwn : (Value.string pieces).text? = some channel := hText
    rw [List.mapM_cons, hOwn, hTexts]
    rfl

theorem below?_of_lt {bound n : Nat} (hLess : n < bound) :
    (Value.number ⟨false, n, true⟩).below? bound = some n := by
  have hBelow : (0 : Int) ≤ n ∧ (n : Int) < bound := ⟨Int.natCast_nonneg n, Int.ofNat_lt.mpr hLess⟩
  exact if_pos hBelow

theorem ofBytes?_write (c : Claims) : (Value.ofBytes? c.write).bind ofJson? = some c := by
  obtain ⟨pieces, hSubject, hSub⟩ := reads_ofText c.subject
  obtain ⟨values, hItems, hChannels⟩ := exists_channels c.channels
  have hMembers : List.Forall₂ ReadsMember
      [("sub", ofText c.subject), ("channels", ofItems (c.channels.map ofText)),
        ("exp", ofInt c.expiry.toNat)]
      [("sub", .string pieces), ("channels", .array values),
        ("exp", .number ⟨false, c.expiry.toNat, true⟩)] :=
    .cons ⟨rfl, hSub⟩ (.cons ⟨rfl, reads_ofItems hItems⟩ (.cons ⟨rfl, reads_ofInt _⟩ .nil))
  obtain ⟨written, hNamed, hRead⟩ := reads_ofMembers hMembers (List.cons_ne_nil _ _)
  have hFields : (Value.object written).members? ["sub", "channels", "exp", "aud", "nbf", "iss"] =
      some [some (.string pieces), some (.array values),
        some (.number ⟨false, c.expiry.toNat, true⟩), none, none, none] := by
    rw [Value.members?, hNamed]
    rfl
  have hTexts : (Value.array values).texts? = some c.channels := hChannels
  have hText : (Value.string pieces).text? = some c.subject := hSubject
  rw [write, hRead.ofBytes?, Option.bind_some, ofJson?, hFields]
  simp only [Option.bind_eq_bind, Option.bind_some, hText, hTexts,
    below?_of_lt c.expiry.toNat_lt_size, UInt64.ofNat_toNat]
  rfl

end Claims

namespace Token

variable {secret publisher token : String} {channels : List String} {c : Claims} {now : Nat}
  {ttl : Int}

/-! ## Three parts -/

theorem value?_digits (bs : Bytes) : value? (Base64Url.digits bs) = Value.ofBytes? bs := by
  rw [value?, Base64Url.decode?_digits, Option.bind_some]

theorem isHeader_header : (Value.ofBytes? header).any isHeader = true := by
  decide

/-- The octets that the signature of a claim is made of. -/
def mark (secret : String) (c : Claims) : Bytes :=
  Hmac.sign (Utf8.encode secret) (Utf8.encode (part header ++ "." ++ part c.write))

theorem toList_ofClaims (secret : String) (c : Claims) : (ofClaims secret c).toList =
    Base64Url.digits header ++ '.' :: (Base64Url.digits c.write ++ '.' ::
      Base64Url.digits (mark secret c)) := by
  simp only [ofClaims, signature, part, mark, String.toList_append, String.toList_ofList,
    List.append_assoc]
  rfl

theorem splitOn_ofClaims (secret : String) (c : Claims) : (ofClaims secret c).toList.splitOn '.' =
    [Base64Url.digits header, Base64Url.digits c.write, Base64Url.digits (mark secret c)] := by
  rw [toList_ofClaims, List.splitOn_append_cons_self_of_not_mem (Base64Url.dot_not_mem_digits _),
    List.splitOn_append_cons_self_of_not_mem (Base64Url.dot_not_mem_digits _),
    List.splitOn_eq_singleton (Base64Url.dot_not_mem_digits _)]

/-- The claims that were issued are read back with the secret. -/
theorem claims?_ofClaims (secret : String) (c : Claims) :
    claims? secret (ofClaims secret c) = some c := by
  have hSigned : String.ofList (Base64Url.digits (mark secret c)) =
      signature secret (String.ofList (Base64Url.digits header) ++ "." ++
        String.ofList (Base64Url.digits c.write)) := rfl
  rw [claims?, splitOn_ofClaims]
  simp only [value?_digits, isHeader_header, ← hSigned, Bool.true_and, beq_self_eq_true, if_true]
  exact c.ofBytes?_write

theorem ofClaims_ne_empty (secret : String) (c : Claims) : ofClaims secret c ≠ "" := by
  intro hEmpty
  have hParts := toList_ofClaims secret c
  rw [hEmpty] at hParts
  exact List.append_ne_nil_of_right_ne_nil _ (List.cons_ne_nil _ _) hParts.symm

/-! ## Verification -/

theorem verify_ofClaims (secret : String) (now : Nat) (c : Claims) :
    verify secret now (ofClaims secret c) =
      if c.expiry.toNat < now - leeway then .error .invalidCredential else .ok c := by
  rw [verify, claims?_ofClaims]

theorem access_ofClaims_of_late (hLate : c.expiry.toNat < now - leeway) (channel : String) :
    access secret now (ofClaims secret c) channel = .error .invalidCredential := by
  rw [access, if_neg (ofClaims_ne_empty secret c), verify_ofClaims, if_pos hLate]
  rfl

/-! ## Expiry -/

theorem toNat_ofInt (n : Int) : ((UInt64.ofInt n).toNat : Int) = n % 2 ^ 64 := by
  rw [UInt64.ofInt, UInt64.toNat_ofNat']
  omega

theorem issue?_eq_some {now : Int}
    (hIssued : issue? secret now publisher channels ttl = some token) :
    ttl.natAbs ≤ longest ∧ firstSecond ≤ now + ttl ∧ now + ttl ≤ lastSecond ∧
      token = ofClaims secret ⟨publisher, channels, UInt64.ofInt (now + ttl)⟩ := by
  obtain ⟨expiry, hExpiry, rfl⟩ := Option.map_eq_some_iff.mp hIssued
  unfold expiry? at hExpiry
  split at hExpiry
  · rename_i hCalendar
    cases hExpiry
    exact ⟨hCalendar.1, hCalendar.2.1, hCalendar.2.2, rfl⟩
  · cases hExpiry

/-- Nobody is admitted with the token from a time on. -/
structure Refused (secret token : String) (now : Nat) : Prop where
  verify : ∀ later, now ≤ later → verify secret later token = .error .invalidCredential
  access : ∀ later channel, now ≤ later →
    access secret later token channel = .error .invalidCredential

theorem refused_of_late (hLate : c.expiry.toNat < now - leeway) :
    Refused secret (ofClaims secret c) now := by
  have hLater : ∀ later, now ≤ later → c.expiry.toNat < later - leeway :=
    fun later hSince => Nat.lt_of_lt_of_le hLate (Nat.sub_le_sub_right hSince leeway)
  refine ⟨fun later hSince => ?_, fun later channel hSince => ?_⟩
  · rw [verify_ofClaims, if_pos (hLater later hSince)]
  · exact access_ofClaims_of_late (hLater later hSince) channel

/-- A token whose expiry is before the epoch is taken for as long as there is a clock. -/
theorem verify_of_early (hIssued : issue? secret now publisher channels ttl = some token)
    (hEarly : (now + ttl : Int) < 0) {later : Nat} (hClock : later < 2 ^ 63) :
    verify secret later token = .ok ⟨publisher, channels, UInt64.ofInt (now + ttl)⟩ := by
  obtain ⟨-, hFirst, -, rfl⟩ := issue?_eq_some hIssued
  have hExpiry := toNat_ofInt (now + ttl)
  rw [verify_ofClaims, if_neg]
  rw [firstSecond] at hFirst
  dsimp only
  omega

/-- A token that is issued with an expiry a minute ago or more is refused at once and ever
after, unless its expiry is before the epoch. -/
theorem expired_refused_iff (hPast : ttl ≤ -61)
    (hIssued : issue? secret now publisher channels ttl = some token) :
    Refused secret token now ↔ 0 ≤ (now + ttl : Int) := by
  obtain ⟨hLongest, hFirst, hLast, hToken⟩ := issue?_eq_some hIssued
  constructor
  · intro hRefused
    by_contra hEarly
    have hClock : now < 2 ^ 63 := by
      rw [longest] at hLongest
      omega
    have hTaken := verify_of_early hIssued (by omega) hClock
    cases (hRefused.verify now (Nat.le_refl _)).symm.trans hTaken
  · intro hEpoch
    have hExpiry := toNat_ofInt (now + ttl)
    rw [hToken]
    refine refused_of_late ?_
    rw [lastSecond] at hLast
    rw [leeway]
    dsimp only
    omega

/-- Claims that were issued in November 2023. -/
def pastClaims (expiry : UInt64) : Claims where
  subject := "thing-1"
  channels := ["abc"]
  expiry

theorem issue?_past (ttl : Int) (expiry : UInt64) (hExpiry : expiry? 1700000000 ttl = some expiry) :
    issue? "secret" (1700000000 : Nat) "thing-1" ["abc"] ttl =
      some (ofClaims "secret" (pastClaims expiry)) := by
  have hNow : ((1700000000 : Nat) : Int) = 1700000000 := rfl
  rw [issue?, hNow, hExpiry]
  rfl

/-- A token that expired an hour ago. -/
theorem expired_refused_hour : (-3600 : Int) ≤ -61 ∧
    issue? "secret" (1700000000 : Nat) "thing-1" ["abc"] (-3600) =
      some (ofClaims "secret" (pastClaims 1699996400)) ∧
    Refused "secret" (ofClaims "secret" (pastClaims 1699996400)) 1700000000 := by
  have hIssued := issue?_past (-3600) 1699996400 (by decide)
  exact ⟨by decide, hIssued, (expired_refused_iff (by decide) hIssued).mpr (by decide)⟩

/-- A token that expired in February 1897 is taken, and opens its channel. -/
theorem expired_not_refused : (-4000000000 : Int) ≤ -61 ∧
    issue? "secret" (1700000000 : Nat) "thing-1" ["abc"] (-4000000000) =
      some (ofClaims "secret" (pastClaims 18446744071409551616)) ∧
    verify "secret" 1700000000 (ofClaims "secret" (pastClaims 18446744071409551616)) =
      .ok (pastClaims 18446744071409551616) ∧
    access "secret" 1700000000 (ofClaims "secret" (pastClaims 18446744071409551616)) "abc" =
      .ok "thing-1" ∧
    ¬Refused "secret" (ofClaims "secret" (pastClaims 18446744071409551616)) 1700000000 := by
  have hIssued := issue?_past (-4000000000) 18446744071409551616 (by decide)
  have hTaken : verify "secret" 1700000000 (ofClaims "secret" (pastClaims 18446744071409551616)) =
      .ok (pastClaims 18446744071409551616) := verify_of_early hIssued (by decide) (by decide)
  refine ⟨by decide, hIssued, hTaken, ?_, fun hRefused => ?_⟩
  · rw [access, if_neg (ofClaims_ne_empty _ _), hTaken]
    rfl
  · cases (hRefused.verify 1700000000 (Nat.le_refl _)).symm.trans hTaken

/-! ## The time of a token -/

/-- Its publisher is admitted with the token to its channels, and to no others. -/
structure Honoured (secret token publisher : String) (channels : List String) (expiry : Int)
    (now : Nat) : Prop where
  verify : ∃ c, Token.verify secret now token = .ok c ∧ c.subject = publisher ∧
    c.channels = channels ∧ (c.expiry.toNat : Int) = expiry
  opens : ∀ channel ∈ channels, access secret now token channel = .ok publisher
  forbids : ∀ channel ∉ channels, access secret now token channel = .error (.forbidden channel)

theorem access_ofClaims (hTime : ¬c.expiry.toNat < now - leeway) (channel : String) :
    access secret now (ofClaims secret c) channel =
      if channel ∈ c.channels then .ok c.subject else .error (.forbidden channel) := by
  rw [access, if_neg (ofClaims_ne_empty secret c), verify_ofClaims, if_neg hTime]
  rfl

theorem honoured_iff {expiry : Int} (hExpiry : (c.expiry.toNat : Int) = expiry) :
    Honoured secret (ofClaims secret c) c.subject c.channels expiry now ↔
      (now : Int) ≤ expiry + 60 := by
  have hTime : ¬c.expiry.toNat < now - leeway ↔ (now : Int) ≤ expiry + 60 := by
    rw [leeway]
    omega
  rw [← hTime]
  constructor
  · intro hHonoured hLate
    obtain ⟨c', hVerify, -⟩ := hHonoured.verify
    rw [verify_ofClaims, if_pos hLate] at hVerify
    cases hVerify
  · intro hInTime
    refine ⟨⟨c, ?_, rfl, rfl, hExpiry⟩, fun channel hOwn => ?_, fun channel hOther => ?_⟩
    · rw [verify_ofClaims, if_neg hInTime]
    · rw [access_ofClaims hInTime, if_pos hOwn]
    · rw [access_ofClaims hInTime, if_neg hOther]

/-- The clock and the expiry are in the calendar, so the span between them is not too long. -/
theorem issue?_of_calendar {now : Int} (hClock : firstSecond ≤ now ∧ now ≤ lastSecond)
    (hExpiry : firstSecond ≤ now + ttl ∧ now + ttl ≤ lastSecond) (secret publisher : String)
    (channels : List String) : issue? secret now publisher channels ttl =
      some (ofClaims secret ⟨publisher, channels, UInt64.ofInt (now + ttl)⟩) := by
  have hSpan : ttl.natAbs ≤ longest := by
    rw [firstSecond, lastSecond] at hClock hExpiry
    rw [longest]
    omega
  rw [issue?, expiry?, if_pos ⟨hSpan, hExpiry⟩]
  rfl

/-- A token with an expiry from the epoch on is issued, and is honoured up to a minute after
its expiry and not later. -/
theorem issued_honoured_iff {now : Int} (hClock : firstSecond ≤ now ∧ now ≤ lastSecond)
    (hEpoch : 0 ≤ now + ttl) (hLast : now + ttl ≤ lastSecond) (secret publisher : String)
    (channels : List String) :
    ∃ token, issue? secret now publisher channels ttl = some token ∧ ∀ later : Nat,
      Honoured secret token publisher channels (now + ttl) later ↔
        (later : Int) ≤ now + ttl + 60 := by
  have hFirst : firstSecond ≤ now + ttl := by
    rw [firstSecond]
    omega
  refine ⟨_, issue?_of_calendar hClock ⟨hFirst, hLast⟩ secret publisher channels, fun later => ?_⟩
  have hExpiry := toNat_ofInt (now + ttl)
  rw [lastSecond] at hLast
  refine honoured_iff (c := ⟨publisher, channels, UInt64.ofInt (now + ttl)⟩) ?_
  dsimp only
  omega

/-- Names that have to be escaped, and a token that expires as it is issued. -/
theorem issued_honoured_quoted : (firstSecond ≤ 1700000000 ∧ 1700000000 ≤ lastSecond) ∧
    (0 : Int) ≤ 1700000000 + 0 ∧ (1700000000 : Int) + 0 ≤ lastSecond ∧
    ∃ token, issue? "" 1700000000 "\"\\\n" ["", "a.b"] 0 = some token ∧
      Honoured "" token "\"\\\n" ["", "a.b"] 1700000000 1700000060 ∧
      access "" 1700000060 token "a.b" = .ok "\"\\\n" ∧
      access "" 1700000060 token "a" = .error (.forbidden "a") ∧
      ¬Honoured "" token "\"\\\n" ["", "a.b"] 1700000000 1700000061 := by
  have hClock : firstSecond ≤ 1700000000 ∧ 1700000000 ≤ lastSecond := by decide
  have hEpoch : (0 : Int) ≤ 1700000000 + 0 := by decide
  have hCalendar : (1700000000 : Int) + 0 ≤ lastSecond := by decide
  obtain ⟨token, hIssued, hTimes⟩ :=
    issued_honoured_iff hClock hEpoch hCalendar "" "\"\\\n" ["", "a.b"]
  have hLast : Honoured "" token "\"\\\n" ["", "a.b"] 1700000000 1700000060 :=
    (hTimes 1700000060).mpr (by decide)
  exact ⟨hClock, hEpoch, hCalendar, token, hIssued, hLast, hLast.opens _ (by decide),
    hLast.forbids _ (by decide), fun hLate => absurd ((hTimes 1700000061).mp hLate) (by decide)⟩

end Token

end DeviceBus
