import Receipts.Http.Exchange

/-!
# Calls that can be made

A call can be made when its address is that of a web service and its key may stand in a header.
-/

namespace Receipts.Http

/-- An address is read as a URL of a web service that a call can be made to. The user name and the
password in the address are no part of the URL. -/
structure LeadsTo (address : String) (url : Url) : Prop where
  read : (Url.ofWritten? address).map Url.withoutUser = some url
  host : url.hasHost = true
  web : url.scheme = "http".toList ∨ url.scheme = "https".toList
  callable : url.isCallable = true

/-- A call is made exactly when the address leads to a service and the key may stand in a header. -/
theorem call?_eq_ok_iff {address key body : String} {call : Call} :
    call? address key body = .ok call ↔
      key.toList.all isHeaderChar = true ∧
        ∃ url, LeadsTo address url ∧ call = ⟨url, key, body⟩ := by
  constructor
  · intro h
    unfold call? at h
    split at h
    · cases h
    · rename_i url hread
      dsimp only at h
      by_cases hhost : url.hasHost = true
      · rw [hhost, Bool.not_true, if_neg Bool.false_ne_true] at h
        by_cases hkey : key.toList.all isHeaderChar = true
        · rw [hkey, Bool.not_true, if_neg Bool.false_ne_true] at h
          split at h
          · rename_i hcallable
            cases h
            rw [Bool.and_eq_true, Bool.or_eq_true, beq_iff_eq, beq_iff_eq] at hcallable
            exact ⟨hkey, url, ⟨hread, hhost, hcallable.1, hcallable.2⟩, rfl⟩
          · cases h
        · simp [hkey] at h
      · simp [hhost] at h
  · rintro ⟨hkey, url, hurl, rfl⟩
    have hweb : (url.scheme == "http".toList || url.scheme == "https".toList) = true := by
      rw [Bool.or_eq_true, beq_iff_eq, beq_iff_eq]
      exact hurl.web
    unfold call?
    rw [hurl.read]
    simp only [hurl.host, hkey, hweb, hurl.callable]
    rfl

theorem isSuccess_iff {status : Nat} : isSuccess status = true ↔ 200 ≤ status ∧ status < 300 := by
  rw [isSuccess, Bool.and_eq_true, decide_eq_true_eq, decide_eq_true_eq]

/-- A service that notes every call and gives the same reply to all of them. -/
def noting (reply : Reply) : Exchange (StateM (List Call)) := fun call => do
  modify (· ++ [call])
  return some reply

end Receipts.Http
