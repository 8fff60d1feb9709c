/-
  `Proxy` — calling an intercepted component, and `ProxyScheme` — how proxies are made and
  recognised.

  A business call through a proxy runs the method's chain with the live interceptors that were
  made for the object; a method without a chain is called as it is.
-/
import Wiring.Invocation.Run

namespace Wiring

/-- `p.invoke host name arguments` — a business call.  A chain that was cut short without a result
    gives the host's unit value. -/
def Proxy.invoke (host : Host) (p : Proxy host.toVocabulary host.Ref) (name : String)
    (arguments : List host.Ref) : Effect host.World host.Ref :=
  match p.methods.get? name with
  | none => .fail (.unknownMethod p.component name)
  | some g =>
    Effect.blaming (.businessCall p.component g.method.member.name) <|
      if g.chain.isEmpty then host.call g.method.routine p.target arguments
      else do
        let result ← (Invocation.business p.target g.method g.chain (some p.interceptors)
          arguments).during Invocation.proceed
        return result.getD (.plain host.unit)

/-- `Carrier host` — what a recognised proxy gives away: the real instance and its live
    interceptors. -/
structure Carrier (host : Host) where
  target : host.Ref
  interceptors : host.LiveSet

/-- `ProxyScheme host` — how a definition makes proxies and looks through them. -/
structure ProxyScheme (host : Host) where
  /-- Surround an instance of the named component. -/
  wrap : (component : String) → host.Ref → host.LiveSet → Table String (Guarded host.Routine) →
    host.World → host.Ref × host.World
  /-- What an interception proxy carries; nothing for any other reference. -/
  carrier? : host.Ref → Option (Carrier host)
  /-- The instance that a scope proxy stands for at the moment; nothing for any other reference. -/
  current : host.Ref → Effect host.World (Option host.Ref)

namespace ProxyScheme

/-- `standard host` — interception proxies carry their own state, and scope proxies ask their
    scope. -/
def standard (host : Host) : ProxyScheme host where
  wrap component target interceptors methods w :=
    (.intercepted ⟨component, target, interceptors, methods⟩, w)
  carrier? r := r.proxy?.map fun p => ⟨p.target, p.interceptors⟩
  current
    | .scoped scope => some <$> host.contextual scope
    | _ => .done none

end ProxyScheme

end Wiring
