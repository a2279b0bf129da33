import Phrasebook.Proofs.Locale.NullTexts
import Phrasebook.Proofs.Locale.Outcomes
import Phrasebook.Proofs.Resources.WrittenFiles

/-!
# What a client is sent and the context

A client that sends no header, or an empty one, is sent American English. A header that begins with
a comma is not empty, but the entry before its first comma is, and an empty locale is none: what is
sent is then in the locale of the context. These are the only headers for which the context makes a
difference, and they make one whatever the localizer is.
-/

namespace Phrasebook.Text

theorem before_eq_nil_iff {sep : Char} {s : Text} :
    before sep s = [] ↔ s = [] ∨ s.head? = some sep := by
  cases s with
  | nil => simp [before]
  | cons c rest =>
      by_cases h : c = sep
      · simp [before, h]
      · simp [before, h]

end Phrasebook.Text

namespace Phrasebook.Locale

open Resources

namespace Localizer

variable {l : Localizer} {accept : Option Text} {context : Option RequestContext} {bundle : Bundle}

/-- Putting the end of an entry into upper case leaves nothing of it only if there was nothing. -/
theorem take_append_upper_eq_nil_iff {entry : Text} :
    entry.take 3 ++ Text.upper (entry.drop 3) = [] ↔ entry = [] := by
  cases entry with
  | nil => exact iff_of_true rfl rfl
  | cons c rest => simp

/-- A client has no tag exactly if its header begins with a comma. -/
theorem clientTag_eq_nil_iff :
    clientTag accept = [] ↔ (accept.getD []).head? = some ',' := by
  rw [clientTag, take_append_upper_eq_nil_iff, Text.before_eq_nil_iff]
  cases accept.getD [] with
  | nil => exact iff_of_false (by decide) (by decide)
  | cons c rest => simp

/-- A client with a tag makes a request for it. -/
theorem request_of_tag (h : (accept.getD []).head? ≠ some ',') (l : Localizer)
    (context : Option RequestContext) (bundle : Bundle) :
    l.request context bundle (.text (clientTag accept)) =
      ⟨l.loader, bundle, .text (clientTag accept)⟩ := by
  have hne : clientTag accept ≠ [] := fun hnil => h (clientTag_eq_nil_iff.1 hnil)
  rw [request, chosen, if_neg]
  rwa [Value.isEmpty_text, List.isEmpty_iff]

/-- A client without a tag makes a request for the current locale. -/
theorem request_of_comma (h : (accept.getD []).head? = some ',') (l : Localizer)
    (context : Option RequestContext) (bundle : Bundle) :
    l.request context bundle (.text (clientTag accept)) =
      ⟨l.loader, bundle, l.current context⟩ := by
  rw [request, chosen, clientTag_eq_nil_iff.2 h]
  rfl

/-- The context of a client that has a tag makes no difference. -/
theorem payload_context [Platform] (h : (accept.getD []).head? ≠ some ',') (l : Localizer)
    (fs : FileSystem) (context other : Option RequestContext) (source : Text) :
    l.payload fs context source accept = l.payload fs other source accept := by
  apply payload_congr
  rw [request_of_tag h, request_of_tag h]

/-! ## Contexts that make a difference -/

/-- A locale that is longer than the base language and than every language, and has no hyphen. -/
def longLocale (l : Layout) : Text :=
  List.replicate (l.baseLang.length + 3) 'x'

theorem length_longLocale (l : Layout) : (longLocale l).length = l.baseLang.length + 3 :=
  List.length_replicate

/-- Entries with one text. -/
def greeting : Entries := [("greeting".toList, some "Hello".toList)]

/-- The directory of a source with the greeting in the file for the long locale and nothing
else. -/
def greetingFiles (l : Layout) (source : Text) : FileSystem :=
  .sole (l.directory source) (fileName (stem source) (longLocale l)) (Json.write greeting)

/-- A locale that is shorter than every language. -/
def shortLocale : Text := ['x']

theorem length_lt_of_mem_tags_shortLocale {layout : Layout} {tag : Text}
    (h : tag ∈ layout.tags shortLocale) : tag.length < (longLocale layout).length := by
  have hshort : shortLocale.length < layout.baseLang.length + 3 := by
    change 1 < _
    omega
  rw [length_longLocale]
  rcases Layout.mem_tags_iff.1 h with rfl | rfl | rfl
  · omega
  · exact hshort
  · exact hshort

/-- No tag of the short locale looks for the file of the long one. -/
theorem not_looksFor_of_mem_tags_shortLocale {layout : Layout} {tag : Text}
    (h : tag ∈ layout.tags shortLocale) (stem : Text) :
    ¬ LooksFor stem tag (fileName stem (longLocale layout)) := by
  rintro (hname | ⟨-, hvariant⟩)
  · have hlength := length_lt_of_mem_tags_shortLocale h
    rw [fileName_inj.1 hname] at hlength
    exact Nat.lt_irrefl _ hlength
  · obtain ⟨region, -, -, hname⟩ := isVariant_iff.1 hvariant
    have hhyphen : '-' ∈ longLocale layout :=
      fileName_inj.1 hname ▸ List.mem_append_right tag List.mem_cons_self
    exact absurd (List.eq_of_mem_replicate hhyphen) (by decide)

/-- In the directory with the greeting a locale resolves to it or to nothing. -/
theorem resolve_greetingFiles [Platform] (layout : Layout) (source locale : Text) :
    (∃ tag ∈ layout.tags locale,
        LooksFor (stem source) tag (fileName (stem source) (longLocale layout))) ∧
        (layout.resolve (greetingFiles layout source) source locale).result = .ok greeting ∨
      (∀ tag ∈ layout.tags locale,
        ¬ LooksFor (stem source) tag (fileName (stem source) (longLocale layout))) ∧
        (layout.resolve (greetingFiles layout source) source locale).result = .ok [] := by
  have hnodup : greeting.keys.Nodup := by decide
  exact resolve_sole (head?_fileName (slash_not_mem_stem source) _) (parseFile_write hnodup _) hnodup
    locale

theorem resolve_longLocale [Platform] (layout : Layout) (source : Text) :
    (layout.resolve (greetingFiles layout source) source (longLocale layout)).result =
      .ok greeting := by
  rcases resolve_greetingFiles layout source (longLocale layout) with ⟨-, hok⟩ | ⟨hnone, -⟩
  · exact hok
  · exact absurd (.inl rfl) (hnone _ (Layout.mem_tags_iff.2 (.inr (.inr rfl))))

theorem resolve_shortLocale [Platform] (layout : Layout) (source : Text) :
    (layout.resolve (greetingFiles layout source) source shortLocale).result = .ok [] := by
  rcases resolve_greetingFiles layout source shortLocale with ⟨⟨tag, htag, hlooks⟩, -⟩ | ⟨-, hok⟩
  · exact absurd hlooks (not_looksFor_of_mem_tags_shortLocale htag _)
  · exact hok

/-- The context of a request in a locale. -/
def contextOf (locale : Text) : RequestContext := ⟨.text locale, .null⟩

theorem current_contextOf (l : Localizer) {locale : Text} (h : locale ≠ []) :
    l.current (some (contextOf locale)) = .text locale := by
  cases locale with
  | nil => exact absurd rfl h
  | cons c rest => rfl

/-- A client without a tag is sent the texts of whichever locale the context has. -/
theorem result_payload_of_comma [Platform] (h : (accept.getD []).head? = some ',') (l : Localizer)
    {fs : FileSystem} {source locale : Text} {entries : Entries} (hlocale : locale ≠ [])
    (hresolve : (l.loader.layout.resolve fs source locale).result = .ok entries) :
    (l.payload fs (some (contextOf locale)) source accept .empty).1.result =
      .ok (Json.write entries) := by
  have hitems : (Request.ofFiles l.loader source locale).alone fs = .ok entries :=
    (Request.alone_eq_ok_iff (Request.asks_ofFiles _ _ _)).2 hresolve
  rw [Request.alone, Request.ofFiles] at hitems
  rw [result_payload, request_of_comma h, current_contextOf l hlocale, hitems]
  rfl

/-- For a client without a tag there are contexts that make a difference. -/
theorem exists_contexts_of_comma [Platform] (h : (accept.getD []).head? = some ',') (l : Localizer)
    (source : Text) : ∃ fs context other,
      (l.payload fs context source accept .empty).1.result ≠
        (l.payload fs other source accept .empty).1.result := by
  have hlong : longLocale l.loader.layout ≠ [] := by simp [longLocale]
  have hshort : shortLocale ≠ [] := List.cons_ne_nil _ _
  refine ⟨greetingFiles l.loader.layout source, some (contextOf (longLocale l.loader.layout)),
    some (contextOf shortLocale), ?_⟩
  rw [result_payload_of_comma h l hlong (resolve_longLocale _ source),
    result_payload_of_comma h l hshort (resolve_shortLocale _ source)]
  intro heq
  have hwritten : Json.write greeting = Json.write [] := Except.ok.inj heq
  revert hwritten
  decide

/-- What a client is sent, with all that is asked of the file system, noted and remembered for it,
is the same in every context exactly if the header does not begin with a comma; and so it is for the
text or the error alone. -/
theorem payload_context_tfae [Platform] (l : Localizer) (accept : Option Text) : List.TFAE [
    (accept.getD []).head? ≠ some ',',
    ∀ (fs : FileSystem) (context other : Option RequestContext) (source : Text) (s : Store),
      l.payload fs context source accept s = l.payload fs other source accept s,
    ∀ (fs : FileSystem) (context other : Option RequestContext) (source : Text) (s : Store),
      (l.payload fs context source accept s).1.result =
        (l.payload fs other source accept s).1.result] := by
  tfae_have 1 → 2 := by
    intro h fs context other source s
    rw [payload_context h l fs context other source]
  tfae_have 2 → 3 := by
    intro h fs context other source s
    rw [h fs context other source s]
  tfae_have 3 → 1 := by
    intro h hcomma
    obtain ⟨fs, context, other, hne⟩ := exists_contexts_of_comma hcomma l []
    exact hne (h fs context other [] .empty)
  tfae_finish

/-- A header that begins with a comma is answered in German if the context is German, and in English
if there is none. -/
theorem payload_of_context :
    (menuLocalizer.payload menu.fileSystem none menuSource (some ",x".toList) .empty).1.result =
      .ok "\x7b\"title\": \"Home\", \"back\": \"Back\"\x7d".toList ∧
    (menuLocalizer.payload menu.fileSystem (some (contextOf "de".toList)) menuSource
      (some ",x".toList) .empty).1.result =
        .ok "\x7b\"title\": \"Start\", \"back\": null, \"help\": \"Hilfe\"\x7d".toList := by
  refine ⟨?_, ?_⟩
  · cbv
  · cbv

end Localizer

end Phrasebook.Locale
