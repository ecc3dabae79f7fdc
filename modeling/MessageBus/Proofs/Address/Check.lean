import MessageBus.Listener
import MessageBus.Proofs.Address.Grammar
/-!
What is known of an address that a text writes: it meets what its transport asks, so that its port can
be read again when it is bound.
-/
namespace MessageBus.Address
variable {text : String} {a : Address}

theorem check_of_parse (h : parse text = .ok a) : a.check = .ok () := (parse_ok_iff.1 h).2

theorem askedPort_of_parse (h : parse text = .ok a) (htcp : a.transport = .tcp) :
    ∃ n, Listener.askedPort a = .ok n := by
  have hasked := check_ok_iff.1 (check_of_parse h)
  simp only [Asked, htcp] at hasked
  unfold Listener.askedPort
  split
  · rename_i port hgiven
    obtain ⟨hport, -⟩ := Option.filter_eq_some_iff.1 hgiven
    obtain ⟨n, hn, -⟩ := (hasked port (get?_eq_some_iff.1 hport)).readInteger
    exact ⟨n, by rw [hn]; rfl⟩
  · exact ⟨0, rfl⟩

end MessageBus.Address
