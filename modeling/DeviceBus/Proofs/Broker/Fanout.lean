import DeviceBus.Proofs.Broker

/-! # Messages to plain routes

Without queue groups a message goes to every route whose pattern selects its
subject. When no other message is on its way it waits there alone, and one
dispatch takes it.
-/

namespace DeviceBus.Broker

variable {T : Type} {b : Broker T}

theorem recipients_of_plain (hPlain : ∀ r ∈ b.routes, r.group = none) (subject : String) :
    b.recipients subject = b.matching subject := by
  have hMatching : ∀ r ∈ b.matching subject, r.group = none :=
    fun r hr => hPlain r (List.mem_filter.mp hr).1
  have hKeys : groupKeys (b.matching subject) = [] := by
    have hNone : ((b.matching subject).filterMap fun r => r.group.map fun g => (g, r.pattern)) =
        [] := by
      rw [List.filterMap_eq_nil_iff]
      intro r hr
      rw [hMatching r hr]
      rfl
    rw [groupKeys, hNone]
    rfl
  have hAll : (b.matching subject).filter (fun r => r.group.isNone) = b.matching subject := by
    rw [List.filter_eq_self]
    intro r hr
    rw [hMatching r hr]
    rfl
  rw [recipients, hKeys, hAll, List.filterMap_nil, List.append_nil]

/-- The mailbox of a route to which one message has come. -/
def letter (data : Bytes) (r : Route T) : Mailbox T :=
  { route := r.id, tap := r.tap, waiting := [data] }

theorem foldl_post_of_new (targets : List (Route T)) (data : Bytes) (mailboxes : List (Mailbox T))
    (hNodup : (targets.map Route.id).Nodup)
    (hNew : ∀ m ∈ mailboxes, ∀ r ∈ targets, m.route ≠ r.id) :
    targets.foldl (fun ms r => post ms r data) mailboxes =
      mailboxes ++ targets.map (letter data) := by
  induction targets generalizing mailboxes with
  | nil => simp
  | cons r rest ih =>
    rw [List.map_cons, List.nodup_cons] at hNodup
    have hPost : post mailboxes r data = mailboxes ++ [letter data r] := by
      rw [post, if_neg]
      · rfl
      · rw [List.any_eq_true]
        rintro ⟨m, hm, hSame⟩
        exact hNew m hm r List.mem_cons_self (of_decide_eq_true hSame)
    rw [List.foldl_cons, hPost, ih _ hNodup.2, List.append_assoc]
    · rfl
    · intro m hm r' hr'
      rcases List.mem_append.mp hm with hOld | hLast
      · exact hNew m hOld r' (List.mem_cons_of_mem r hr')
      · rw [List.mem_singleton.mp hLast]
        rintro (hSame : r.id = r'.id)
        exact hNodup.1 (hSame ▸ List.mem_map_of_mem hr')

theorem nodup_matching (hOwned : b.Owned) (subject : String) :
    ((b.matching subject).map Route.id).Nodup :=
  hOwned.ids_nodup.sublist (List.filter_sublist.map Route.id)

theorem mailboxes_route (hOwned : b.Owned) (hPlain : ∀ r ∈ b.routes, r.group = none)
    (hQuiet : b.mailboxes = []) (subject : String) (data : Bytes) :
    (b.route subject data).2.mailboxes = (b.matching subject).map (letter data) := by
  have hPosted := foldl_post_of_new (b.matching subject) data [] (nodup_matching hOwned subject)
    fun m hm => by cases hm
  simp only [route, recipients_of_plain hPlain]
  have hBefore : (b.advance subject).mailboxes = [] := hQuiet
  rw [hBefore, hPosted, List.nil_append]

theorem takeFrom?_letter {data : Bytes} {r : Route T} {mailboxes : List (Mailbox T)}
    (hMailboxes : b.mailboxes = letter data r :: mailboxes)
    (hOther : ∀ m ∈ mailboxes, m.route ≠ r.id) :
    b.takeFrom? r.id = some (r.tap, data, { b with mailboxes }) := by
  have hRest : (letter data r :: mailboxes).filter (fun m => m.route ≠ r.id) = mailboxes := by
    rw [List.filter_cons_of_neg (by simp [letter]), List.filter_eq_self]
    exact fun m hm => decide_eq_true (hOther m hm)
  have hFound : b.mailboxes.find? (fun m => m.route = r.id) = some (letter data r) := by
    rw [hMailboxes, List.find?_cons_of_pos (by simp [letter])]
  simp only [takeFrom?, hFound, letter, List.isEmpty_nil, if_true]
  rw [hMailboxes, hRest]

end DeviceBus.Broker
