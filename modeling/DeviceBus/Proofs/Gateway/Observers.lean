import DeviceBus.Proofs.Coap.Fields
import DeviceBus.Proofs.Gateway.Actions

/-! # The names of observers

An observer is named by its publisher, a dash and the hexadecimal digits of its token. No
digit is a dash, so the last dash of a name is the one between the two, whatever the
publisher is, and the token is read back from the digits. So a request leaves alone the
registrations of all other publishers and tokens.
-/

namespace DeviceBus

/-! ## Hexadecimal digits -/

namespace Bytes

theorem hexValue?_hexDigit_ofNat :
    ∀ n < 16, hexValue? (hexDigit (UInt8.ofNat n)) = some (UInt8.ofNat n) := by
  decide

theorem hexValue?_hexDigit {n : UInt8} (hLess : n.toNat < 16) :
    hexValue? (hexDigit n) = some n := by
  have hDigit := hexValue?_hexDigit_ofNat n.toNat hLess
  rwa [UInt8.ofNat_toNat] at hDigit

theorem hexDigit_ne_dash {n : UInt8} (hLess : n.toNat < 16) : hexDigit n ≠ '-' := by
  intro hDash
  have hValue := hexValue?_hexDigit hLess
  rw [hDash] at hValue
  cases hValue

theorem hexDigits_cons (b : UInt8) (bs : Bytes) :
    hexDigits (b :: bs) = hexDigit (b >>> 4) :: hexDigit (b &&& 0x0F) :: hexDigits bs :=
  rfl

theorem dash_not_mem_hexDigits (bs : Bytes) : '-' ∉ hexDigits bs := by
  induction bs with
  | nil => exact List.not_mem_nil
  | cons b bs ih =>
    rw [hexDigits_cons, List.mem_cons, List.mem_cons, not_or, not_or]
    exact ⟨(hexDigit_ne_dash (Coap.highNibble_lt b)).symm,
      (hexDigit_ne_dash (Coap.lowNibble_lt b)).symm, ih⟩

theorem ofHexDigits?_hexDigits (seen bs : Bytes) :
    ofHexDigits? seen (hexDigits bs) = some (seen.reverse ++ bs) := by
  induction bs generalizing seen with
  | nil => rw [List.append_nil]; rfl
  | cons b bs ih =>
    rw [hexDigits_cons, ofHexDigits?, hexValue?_hexDigit (Coap.highNibble_lt b),
      hexValue?_hexDigit (Coap.lowNibble_lt b)]
    simp only [Option.bind_eq_bind, Option.bind_some, Coap.joined_nibbles, ih, List.reverse_cons,
      List.append_assoc, List.singleton_append]

theorem ofHex?_hex (bs : Bytes) : ofHex? bs.hex = some bs := by
  rw [ofHex?, hex, String.toList_ofList, ofHexDigits?_hexDigits]
  rfl

theorem hex_inj {bs bs' : Bytes} : bs.hex = bs'.hex ↔ bs = bs' := by
  constructor
  · intro hSame
    have hRead := ofHex?_hex bs
    rw [hSame, ofHex?_hex] at hRead
    exact (Option.some.inj hRead).symm
  · rintro rfl
    rfl

end Bytes

namespace Gateway

open Coap

variable {g : Gateway} {wall : Int64} {peer : Peer} {p : Packet} {publisher : String}
  {token : Bytes} {e : Event}

/-! ## Names -/

/-- Texts are divided by a separator at its last place. -/
theorem append_cons_inj_of_last {sep : Char} {as as' bs bs' : List Char} (hLast : sep ∉ bs)
    (hLast' : sep ∉ bs') (hSame : as ++ sep :: bs = as' ++ sep :: bs') : as = as' ∧ bs = bs' := by
  rcases List.append_eq_append_iff.mp hSame with ⟨between, rfl, hRest⟩ | ⟨between, rfl, hRest⟩
  · cases between with
    | nil => exact ⟨(List.append_nil as).symm, (List.cons.inj hRest).2⟩
    | cons c between => exact (hLast ((List.cons.inj hRest).2 ▸ by simp)).elim
  · cases between with
    | nil => exact ⟨List.append_nil as', (List.cons.inj hRest).2.symm⟩
    | cons c between => exact (hLast' ((List.cons.inj hRest).2 ▸ by simp)).elim

theorem toList_observerId (publisher : String) (token : Bytes) :
    (observerId publisher token).toList = publisher.toList ++ '-' :: token.hexDigits := by
  simp [observerId, Bytes.hex]

theorem observerId_inj {publisher' : String} {token' : Bytes} :
    observerId publisher token = observerId publisher' token' ↔
      publisher = publisher' ∧ token = token' := by
  constructor
  · intro hSame
    rw [← String.toList_inj, toList_observerId, toList_observerId] at hSame
    obtain ⟨hPublisher, hDigits⟩ := append_cons_inj_of_last (Bytes.dash_not_mem_hexDigits token)
      (Bytes.dash_not_mem_hexDigits token') hSame
    exact ⟨String.toList_inj.mp hPublisher, Bytes.hex_inj.mp (congrArg String.ofList hDigits)⟩
  · rintro ⟨rfl, rfl⟩
    rfl

/-! ## Requests of others -/

/-- A packet that is no request of this publisher with this token, whatever it asks for. -/
def Event.OfOthers (authorizer : Authorizer) (publisher : String) (token : Bytes) (e : Event) :
    Prop :=
  ∃ wall peer p, e = .packet wall peer p ∧ ∀ path publisher',
    Admitted authorizer wall p path publisher' → ¬(publisher' = publisher ∧ p.token = token)

theorem Lawful.pair?_eq {outcome : Option Packet × Gateway} (h : Lawful g wall peer p outcome)
    (hOthers : ∀ path publisher', Admitted g.authorizer wall p path publisher' →
      ¬(publisher' = publisher ∧ p.token = token)) (topic : String) :
    outcome.2.pair? topic (observerId publisher token) =
      g.pair? topic (observerId publisher token) := by
  rcases h.warranted with ⟨hHub, -⟩ | ⟨path, publisher', hAdmitted, hCall⟩
  · rw [pair?, hHub]
    rfl
  · have hNames : ¬(topic = path.topic ∧
        observerId publisher token = observerId publisher' p.token) := by
      rintro ⟨-, hSame⟩
      obtain ⟨hPublisher, hToken⟩ := observerId_inj.mp hSame
      exact hOthers path publisher' hAdmitted ⟨hPublisher.symm, hToken.symm⟩
    rcases hCall with hPosted | hObserved | hCancelled
    · rw [pair?, Hub.pair?, Hub.facade, hPosted.facades]
      rfl
    · exact hObserved.pairs topic _ hNames
    · exact hCancelled.pairs topic _ hNames

/-- A packet of others changes no registration of the publisher with the token. -/
theorem Event.OfOthers.keeps (h : e.OfOthers g.authorizer publisher token) (hSound : g.Sound) :
    (g.step e).authorizer = g.authorizer ∧ ∀ topic,
      (g.step e).pair? topic (observerId publisher token) =
        g.pair? topic (observerId publisher token) := by
  obtain ⟨wall, peer, p, rfl, hOthers⟩ := h
  refine ⟨authorizer_receive g wall peer p, fun topic => ?_⟩
  obtain ⟨log, hReceive⟩ := receive_eq g wall peer p
  rw [step, hReceive]
  exact (lawful_handle hSound wall peer p).pair?_eq hOthers topic

/-- Nor do any number of them. -/
theorem pair?_run_of_others (hSound : g.Sound) {events : List Event}
    (hOthers : ∀ e ∈ events, e.OfOthers g.authorizer publisher token) (topic : String) :
    (g.run events).pair? topic (observerId publisher token) =
      g.pair? topic (observerId publisher token) := by
  induction events generalizing g with
  | nil => rfl
  | cons e events ih =>
    obtain ⟨hFirst, hRest⟩ := List.forall_mem_cons.mp hOthers
    obtain ⟨hAuthorizer, hPairs⟩ := hFirst.keeps hSound
    rw [← hAuthorizer] at hRest
    exact (ih (sound_step hSound e) hRest).trans (hPairs topic)

/-- The name of an observer tells its publisher and its token. So no two observers share a
registration, and no requests of one take out or replace a registration of the other. -/
theorem observers_told_apart :
    (∀ publisher publisher' token token',
      observerId publisher token = observerId publisher' token' ↔
        publisher = publisher' ∧ token = token') ∧
    ∀ (g : Gateway) publisher token events, Reached g →
      (∀ e ∈ events, e.OfOthers g.authorizer publisher token) → ∀ topic,
        (g.run events).pair? topic (observerId publisher token) =
          g.pair? topic (observerId publisher token) :=
  ⟨fun _ _ _ _ => observerId_inj,
    fun _ _ _ _ hReached hOthers => pair?_run_of_others hReached.sound hOthers⟩

/-- A gateway that takes every credential for the name of its publisher. -/
def trusting : Gateway :=
  opened none (fun _ credential _ => .ok credential) {} 0

def requesting (publisher : String) (token : Bytes) (observe : UInt32) : Event :=
  .packet 0 "peer" ({ observingWith "abc" publisher with token }.setObserve observe)

theorem requesting_ofOthers {name : String} {token' : Bytes} {observe : UInt32}
    (hName : ({ observingWith "abc" name with token := token' }.setObserve observe).queryParam
      "auth" = some name) (hOther : name ≠ publisher) :
    (requesting name token' observe).OfOthers trusting.authorizer publisher token := by
  refine ⟨_, _, _, rfl, fun path publisher' hAdmitted hSame => hOther ?_⟩
  have hAccess : Except.ok (({ observingWith "abc" name with token := token' }.setObserve
      observe).queryParam "auth" |>.getD "") = Except.ok publisher' := hAdmitted.access
  rw [hName] at hAccess
  exact (Except.ok.inj hAccess).trans hSame.1

/-- Publishers whose names end like the names of observers. -/
theorem observers_told_apart_dashed :
    observerId "pub-07" [8] = "pub-07-08" ∧ observerId "pub" [7, 8] = "pub-0708" ∧
    Reached (trusting.step (requesting "pub-07" [8] 0)) ∧
    ((trusting.step (requesting "pub-07" [8] 0)).pair? "channels.abc" "pub-07-08").isSome ∧
    (∀ e ∈ [requesting "pub" [7, 8] 1, requesting "pub-07-08" [] 1],
      e.OfOthers (trusting.step (requesting "pub-07" [8] 0)).authorizer "pub-07" [8]) ∧
    ((trusting.step (requesting "pub-07" [8] 0)).run
        [requesting "pub" [7, 8] 1, requesting "pub-07-08" [] 1]).pair? "channels.abc"
          (observerId "pub-07" [8]) =
      (trusting.step (requesting "pub-07" [8] 0)).pair? "channels.abc" (observerId "pub-07" [8]) := by
  have hReached : Reached (trusting.step (requesting "pub-07" [8] 0)) :=
    ⟨_, _, _, _, [requesting "pub-07" [8] 0], rfl⟩
  have hOthers : ∀ e ∈ [requesting "pub" [7, 8] 1, requesting "pub-07-08" [] 1],
      e.OfOthers (trusting.step (requesting "pub-07" [8] 0)).authorizer "pub-07" [8] := by
    have hAuthorizer : (trusting.step (requesting "pub-07" [8] 0)).authorizer = trusting.authorizer :=
      authorizer_receive trusting _ _ _
    rw [hAuthorizer, List.forall_mem_cons, List.forall_mem_singleton]
    exact ⟨requesting_ofOthers (by cbv) (by decide), requesting_ofOthers (by cbv) (by decide)⟩
  exact ⟨by cbv, by cbv, hReached, by cbv, hOthers,
    observers_told_apart.2 _ _ _ _ hReached hOthers _⟩

end Gateway

end DeviceBus
