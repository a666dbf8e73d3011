import PageTelemetry.Proofs.Discretion.Sessions

/-! What trackers do not tell: fragments, and of queries all but the pairs of a campaign, unless they report queries. -/
namespace PageTelemetry
open Url

/-- Runs whose locations differ in nothing that counts send the same requests: replays of two such scripts, and sessions
that begin on two such pages and do such steps. Where no configuration asks for queries these locations may have any
fragments, and any queries with the same campaign; else they may have any fragments. -/
theorem sent_discreetly :
    (∀ (queries : Bool) (s s' : Replay.Script), s.Alike queries s' → ∀ files e,
      (∀ c, Config.layered s.tag files e = .ok c → c.includeQuery = true → queries = true) → ∀ now dryRun,
        Replay.run s files e now dryRun = Replay.run s' files e now dryRun) ∧
    ∀ (m : Scope) (p : Page), p.IsFresh → ∀ href href', Seen m href href' → ∀ steps steps',
      List.Forall₂ (Session.Step.Alike m) steps steps' → ∀ now,
        ((Session.ofPage { p with history := .ofHref href } now).run steps).map (fun r => (r.1,r.2.world.sent)) =
          ((Session.ofPage { p with history := .ofHref href' } now).run steps').map fun r => (r.1,r.2.world.sent) := by
  refine ⟨fun queries s s' h files e hc now dryRun => Replay.run_alike h hc now dryRun,?_⟩
  intro m p hp href href' hhref steps steps' hsteps now
  have hbegin : Session.Alike m (.ofPage { p with history := .ofHref href } now)
      (.ofPage { p with history := .ofHref href' } now) :=
    ⟨World.alike_fresh hp hhref ⟨now⟩ [{ transport := .recording }],rfl,rfl,rfl,rfl⟩
  rw [← List.forall₂_eq_eq_eq]
  exact forall₂_map (hbegin.run hsteps) fun r r' hr => Prod.ext hr.answer hr.session.world.sent

/-! Two shops that are visited on different ways, and the campaign that led to them. -/

def shop (query : String) (fragment : Option String) : Url :=
  ⟨"https".toList,[],[],some (.domain "a.io".toList),none,.segments ["p".toList],some query.toList,
    fragment.map String.toList⟩

lemma leads_shop : Leads false "https://a.io/p?utm_source=x" "https://a.io/p?q=1&utm_source=x&q=2#top" := by
  have hfrom : Url.parse "https://a.io/p?utm_source=x" = .ok (shop "utm_source=x" none) := by decide +kernel
  have hto : Url.parse "https://a.io/p?q=1&utm_source=x&q=2#top" = .ok (shop "q=1&utm_source=x&q=2" (some "top")) := by
    decide +kernel
  exact .absolute (by decide +kernel) (by decide +kernel) hfrom hto
    ⟨by decide +kernel,rfl,by decide +kernel,fun h => absurd h (by decide)⟩

def shopTag : ScriptTag := .ofOptions "https://c.io/t.js" (some "k") none false

/-- A way from the shop and back. -/
def shopScript (url : String) : Replay.Script :=
  { scene := { url := url }, tag := shopTag, steps := [.push "/n",.push url,.back,.replace url] }

def shopSteps (url : String) : List Session.Step :=
  [.installTag shopTag none,.page (.push "/n"),.page (.push url),.back]

def shopSession (url : String) : List (Session.Answer × Session) :=
  (Session.ofPage { history := .ofHref url, ready := .complete } 0).run (shopSteps url)

theorem sent_discreetly_shop :
    Replay.run (shopScript "https://a.io/p?utm_source=x") {} {} 0 true =
      Replay.run (shopScript "https://a.io/p?q=1&utm_source=x&q=2#top") {} {} 0 true ∧
    (shopSession "https://a.io/p?utm_source=x").map (fun r => (r.1,r.2.world.sent)) =
      (shopSession "https://a.io/p?q=1&utm_source=x&q=2#top").map fun r => (r.1,r.2.world.sent) := by
  have hscripts : (shopScript "https://a.io/p?utm_source=x").Alike false
      (shopScript "https://a.io/p?q=1&utm_source=x&q=2#top") :=
    ⟨leads_shop,rfl,rfl,.cons (.same _) (.cons (.push leads_shop) (.cons (.same _) (.cons (.replace leads_shop) .nil)))⟩
  have hlayered : (Config.layered shopTag {} {}).toOption.all (!·.includeQuery) = true := by decide +kernel
  have htag : shopTag.config.toOption.all (!·.includeQuery) = true := by decide +kernel
  have hoff {r : Except Config.Error Config} (h : r.toOption.all (!·.includeQuery) = true) (c : Config) (hc : r = .ok c)
      (hon : c.includeQuery = true) : false = true := by
    subst hc
    simp [Except.toOption,hon] at h
  have hhref : Seen { queries := false } "https://a.io/p?utm_source=x" "https://a.io/p?q=1&utm_source=x&q=2#top" :=
    ⟨leads_shop.twins,fun _ he => absurd he List.not_mem_nil⟩
  have hsteps : List.Forall₂ (Session.Step.Alike { queries := false }) (shopSteps "https://a.io/p?utm_source=x")
      (shopSteps "https://a.io/p?q=1&utm_source=x&q=2#top") :=
    .cons (.installTag (hoff htag) none) (.cons (.page (.push (Leads.same "/n").led))
      (.cons (.page (.push leads_shop.led)) (.cons (.plain rfl) .nil)))
  exact ⟨sent_discreetly.1 false _ _ hscripts {} {} (hoff hlayered) 0 true,
    sent_discreetly.2 _ { history := .ofHref "", ready := .complete } ⟨rfl,rfl,rfl,rfl⟩ _ _ hhref _ _ hsteps 0⟩

end PageTelemetry
