import Conformance.Rule.Basic

/-! Ready-made rules: general coding rules, and the rules of a sample application. -/
namespace Conformance.Rule

def shouldAll (name : String) (selection condition : Predicate) : Rule :=
  { plain name selection .all with condition := some condition }

def shouldNone (name : String) (selection condition : Predicate) : Rule :=
  { plain name selection .none with condition := some condition }

def shouldCount (name : String) (selection : Predicate) (expected : Datum) : Rule :=
  { plain name selection .count with expected }

def shouldBeIndependent (name : String) (selection : Predicate) (slices : Option String) : Rule :=
  { plain name selection .independent with slices }

def standardStreamMembers : List String :=
  ["java.lang.System.out", "java.lang.System.err", "java.lang.Throwable.printStackTrace"]

def genericExceptionConstructors : List String :=
  ["java.lang.Throwable.<init>", "java.lang.Exception.<init>", "java.lang.RuntimeException.<init>"]

def noStandardStreams (name : String) : Rule :=
  { shouldNone name .anything
      (.named "access standard streams" (.ofNode (.accessing standardStreamMembers))) with
    message := some "\x7bitem\x7d accesses standard streams"
    because := "a proper logger should be used instead" }

def noGenericExceptions (name : String) : Rule :=
  { shouldNone name .anything
      (.named "throw generic exceptions" (.ofNode (.accessing genericExceptionConstructors))) with
    message := some "\x7bitem\x7d throws a generic exception"
    because := "specific exceptions carry more meaning" }

def conference : List Rule := [
  noStandardStreams "no-standard-streams",
  noGenericExceptions "no-generic-exceptions",
  shouldNone "interfaces-not-named-interface" (.ofNode .isInterface)
    (.ofNode (.simpleNameContaining "Interface")),
  (shouldAll "speaker-is-abstract"
    (.conj [.ofNode (.inPackage "..speakers"), .ofNode (.simpleName "Speaker")])
    (.ofNode (.hasModifier "abstract"))).freezing,
  { shouldCount "two-presentations" (.ofNode (.implementing "Presentation")) (.int 2) with
    because := "only two presentations are allowed according to our design. " ++
      "We might keep just one" },
  { shouldNone "local-presentation-independent"
      (.source (.ofNode (.simpleName "LocalPresentation")))
      (.target (.ofNode (.simpleName "InternationalPresentation"))) with
    scope := .edges },
  { shouldNone "location-independent-of-speakers" (.source (.ofNode (.inPackage "..location")))
      (.target (.ofNode (.inPackage "..speakers"))) with
    scope := .edges
    because := "speakers may have talks in different locations" },
  shouldBeIndependent "tickets-independent" (.ofNode (.inPackage "..tickets.."))
    (some "..tickets.(*).."),
  { shouldAll "room-serial-version-uid" (.ofNode (.implementing "Room"))
      (.ofNode (.hasField "serialVersionUID" ["static", "final"] (some "java.util.UUID"))) with
    message := some "\x7bitem\x7d: serialVersionUID is not valid"
    because := "Room interface is serializable" },
  shouldAll "lowercase-packages" .anything (.ofNode .lowercasePackage),
  { shouldAll "location-streamer-arguments"
      (.ofMethod (.annotatedWith "LocationInfoStreamer")) (.ofMethod (.parameterCount 1 3)) with
    scope := .methods
    message := some ("method \x7bitem\x7d should specify between 1 and 3 arguments " ++
      "when annotation is used") }]

end Conformance.Rule
