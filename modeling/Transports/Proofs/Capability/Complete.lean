import Transports.Capability.OfParts
/-!
# Complete parts make a record

Parts that fill every required slot with a type of its role, either both or none of the two slots
for domain sockets, and hold a constructor, are admitted as they are (`ofParts_of_complete`).
-/

namespace Transports

namespace Parts

/-- The slot holds a type of its role. -/
def Fills (p : Parts) (s : Slot) : Prop :=
  ∃ h, p.handle? s = some h ∧ h.role = s.role

/-- Everything needed is there, and the domain sockets are a pair or not there at all. -/
structure Complete (p : Parts) : Prop where
  required : ∀ s : Slot, s.isDomain = false → p.Fills s
  pair : (p.Fills .domainServerChannel ∧ p.Fills .domainSocketChannel) ∨
    (p.handle? .domainServerChannel = none ∧ p.handle? .domainSocketChannel = none)
  constructor : ∃ c, p.constructor? = some c

variable {p : Parts} {name : String}

theorem require_of_fills {s : Slot} {h : Handle} (he : p.handle? s = some h)
    (hr : h.role = s.role) : p.require name s = .ok h := by
  simp [require, he, Slot.accept, hr]

theorem domainPair?_of_fills {server socket : Handle}
    (hserver : p.handle? .domainServerChannel = some server)
    (hsocket : p.handle? .domainSocketChannel = some socket)
    (rserver : server.role = .serverDomainSocketChannel)
    (rsocket : socket.role = .domainSocketChannel) :
    p.domainPair? name = .ok (some ⟨server, socket⟩) := by
  simp only [domainPair?, hserver, hsocket, Slot.accept, Slot.role, rserver, rsocket, if_true]
  rfl

theorem domainPair?_of_none (h : p.handle? .domainServerChannel = none) :
    p.domainPair? name = .ok none := by
  simp only [domainPair?, h]
  rfl

/-- The pair that complete parts hold, if they hold one. -/
theorem Complete.exists_domainPair? (hp : p.Complete) (name : String) :
    ∃ domain?, p.domainPair? name = .ok domain? ∧
      domain?.map (·.serverChannel) = p.handle? .domainServerChannel ∧
      domain?.map (·.socketChannel) = p.handle? .domainSocketChannel := by
  rcases hp.pair with ⟨⟨server, hserver, rserver⟩, socket, hsocket, rsocket⟩ | ⟨hserver, hsocket⟩
  · exact ⟨_, domainPair?_of_fills hserver hsocket rserver rsocket, hserver.symm, hsocket.symm⟩
  · exact ⟨_, domainPair?_of_none hserver, hserver.symm, hsocket.symm⟩

theorem Complete.exists_offer (hp : p.Complete) (name : String) :
    ∃ o, p.offer name = .ok o ∧ (∀ s, o.handle? s = p.handle? s) ∧
      p.constructor? = some o.constructor := by
  obtain ⟨server, hserver, rserver⟩ := hp.required .serverChannel rfl
  obtain ⟨socket, hsocket, rsocket⟩ := hp.required .socketChannel rfl
  obtain ⟨datagram, hdatagram, rdatagram⟩ := hp.required .datagramChannel rfl
  obtain ⟨group, hgroup, rgroup⟩ := hp.required .eventLoopGroup rfl
  obtain ⟨loop, hloop, rloop⟩ := hp.required .eventLoop rfl
  obtain ⟨domain?, hd, hdserver, hdsocket⟩ := hp.exists_domainPair? name
  obtain ⟨c, hc⟩ := hp.constructor
  refine ⟨⟨server, socket, domain?, datagram, group, loop, c⟩, ?_, fun s => ?_, hc⟩
  · simp only [offer, hd, require_of_fills hserver rserver, require_of_fills hsocket rsocket,
      require_of_fills hdatagram rdatagram, require_of_fills hgroup rgroup,
      require_of_fills hloop rloop, hc]
    rfl
  · cases s <;> simp [Offer.handle?, *]

theorem Complete.hasHalfPair_eq_false (hp : p.Complete) : p.hasHalfPair = false := by
  rcases hp.pair with ⟨⟨server, hserver, -⟩, socket, hsocket, -⟩ | ⟨hserver, hsocket⟩
  · simp [hasHalfPair, hserver, hsocket]
  · simp [hasHalfPair, hserver, hsocket]

theorem Complete.isEmpty_eq_false (hp : p.Complete) : p.isEmpty = false := by
  obtain ⟨c, hc⟩ := hp.constructor
  simp [isEmpty, hc]

end Parts

/-- **Complete parts are admitted**, and the record holds what they hold. -/
theorem Capability.ofParts_of_complete {p : Parts} (hp : p.Complete) (name : String) :
    ∃ o, Capability.ofParts name p none = .ok (.available name o) ∧
      (∀ s, o.handle? s = p.handle? s) ∧ p.constructor? = some o.constructor := by
  obtain ⟨o, ho, hh, hc⟩ := hp.exists_offer name
  refine ⟨o, ?_, hh, hc⟩
  simp only [ofParts, hp.hasHalfPair_eq_false, hp.isEmpty_eq_false, ho]
  rfl

end Transports
