import CrashReporter.Payload
import CrashReporter.Proofs.Event

-- Payloads read back from what is written of them, as far as the events and sessions in them do.

namespace CrashReporter

open Reader

theorem Notifier.recovers (n : Notifier) : Recovers Notifier.reader n.toJson n True := by
  refine recovers_record ⟨trivial, trivial, trivial, trivial⟩ (List.Sublist.refl _) (by decide) ?_
  intro room y
  rw [required_of_flat (v := .str n.name) (by simp) (recovers_string _) rfl,
    required_of_flat (v := .str n.version) (by simp) (recovers_string _) rfl,
    required_of_flat (v := .str n.url) (by simp) (recovers_string _) rfl]
  simp only [Json.depthMembers, Json.depth, Nat.max_self, Nat.zero_le, true_and]
  exact some_iff

theorem EventPayload.recovers (p : EventPayload)
    (h : ∀ e ∈ p.events, Recovers Event.reader e.toJson e True) :
    Recovers EventPayload.reader p.toJson p True := by
  have hevents := recovers_list h
  refine recovers_record ⟨trivial, p.notifier.recovers.exact, hevents.exact, trivial⟩
    (List.Sublist.refl _) (by decide) ?_
  intro room y
  simp only [Option.bind_eq_bind]
  rw [required_of_flat (v := .str p.apiKey) (by simp) (recovers_string _) rfl]
  simp only [Option.bind_some]
  rw [bind_iff (required_iff (v := p.notifier.toJson) (by simp) p.notifier.recovers),
    bind_iff (required_iff (v := .arr (p.events.map Event.toJson)) (by simp) hevents)]
  have hkey : (Json.str p.apiKey).depth = 0 := rfl
  simp only [Json.depthMembers, hkey, Nat.max_zero, Nat.zero_max, Nat.max_le, true_and, and_assoc]
  exact and_congr_right fun _ => and_congr_right fun _ => some_iff

theorem SessionPayload.recovers (p : SessionPayload)
    (happ : Recovers AppState.reader p.app.toJson p.app True)
    (hdevice : Recovers DeviceState.reader p.device.toJson p.device True)
    (h : ∀ s ∈ p.sessions, Recovers SessionSnapshot.reader s.toJson s True) :
    Recovers SessionPayload.reader p.toJson p True := by
  have hsessions := recovers_list h
  refine recovers_record ⟨p.notifier.recovers.exact, happ.exact, hdevice.exact, hsessions.exact,
    trivial⟩ (List.Sublist.refl _) (by decide) ?_
  intro room y
  simp only [Option.bind_eq_bind]
  rw [bind_iff (required_iff (v := p.notifier.toJson) (by simp) p.notifier.recovers),
    bind_iff (required_iff (v := p.app.toJson) (by simp) happ),
    bind_iff (required_iff (v := p.device.toJson) (by simp) hdevice),
    bind_iff (required_iff (v := .arr (p.sessions.map SessionSnapshot.toJson)) (by simp) hsessions)]
  simp only [Json.depthMembers, Nat.max_zero, Nat.max_le, true_and, and_assoc]
  exact and_congr_right fun _ => and_congr_right fun _ => and_congr_right fun _ =>
    and_congr_right fun _ => some_iff

end CrashReporter
