import Phrasebook.Locale
import Phrasebook.Value.Basic

/-!
Reports: what the library tells about a render, a delivery or a load beside its result. A report is a
cause with its data; level, component, name and fields are read off the cause.
-/

set_option autoImplicit false
set_option relaxedAutoImplicit false

namespace Phrasebook

/-- How serious a report is. -/
inductive Level
  | debug | info | warning | error | critical
  deriving DecidableEq, Repr

namespace Level

def all : List Level := [debug, info, warning, error, critical]

def name : Level → Text
  | debug => "debug"
  | info => "info"
  | warning => "warning"
  | error => "error"
  | critical => "critical"

def weight : Level → Nat
  | debug => 10
  | info => 20
  | warning => 30
  | error => 40
  | critical => 50

def ofName? (t : Text) : Option Level := all.find? fun l => l.name = t

end Level

/-- A part of a document that should have been a mapping. -/
inductive Section
  | strings | tables
  deriving DecidableEq, Repr

def Section.name : Section → Text
  | .strings => ['s', 't', 'r', 'i', 'n', 'g', 's']
  | .tables => ['t', 'a', 'b', 'l', 'e', 's']

inductive Report where
  /-- No arguments were given, and the template has placeholders with these contents. -/
  | missingArguments (key : Text) (placeholders : List Text)
  | missingArgument (key argument : Text)
  | argumentFormatFailed (key argument error : Text)
  /-- No lookup keys were given, and the text has references with these contents. -/
  | missingLocalizedArguments (key : Text) (references : List Text)
  | missingLocalizedArgumentId (key identifier : Text)
  | missingDictionaryValue (key lookupKey : Text)
  | missingDictionaryTag (key lookupKey tag : Text)
  | dictionaryFetchFailed (key lookupKey error : Text)
  | ruleFailed (rule content error : Text)
  | templateNotFound (key : Text) (locale : Option Text) (fallback : Text)
  | templateFetchFailed (key error fallback : Text)
  | subscribedEventHandler (handler eventType : Text) (total : Nat)
  | unsubscribedEventHandler (eventType : Text)
  | clearedAllSubscriptions
  | publishingEvent (eventType : Text) (handlers : Nat)
  | eventHandlerFailed (handler eventType error : Text)
  | localeChangedReceived (locale : Value)
  | initializedLocaleManager (locale fallback : Locale)
  | localeChanged (locale previous : Locale)
  | loadedAllTranslations (locales : Nat)
  | loadedLocaleTranslations (locale : Locale)
  | reloadedAllTranslations
  | usedFallbackTranslation (key : Text) (requested fallback : Locale)
  | managerCreatedWithPreload (directory : Text) (locales : Nat)
  | managerCreatedLazy (directory : Text)
  | initializedLoader (directory : Text) (useCache : Bool)
  | loadedFromCache (locale : Locale)
  | loadedTranslations (locale : Locale) (files templates tables : Nat)
  | parseFailed (file : Text)
  | skippedUnrecognizedFile (file : Text)
  | couldNotLoadLocale (locale : Locale)
  | invalidDocument (file : Text)
  | invalidSection (file : Text) (part : Section)
  | invalidTableRow (file lookupKey : Text)
  | clearedTranslationCache

namespace Report

/-- The part of the library that makes a report. -/
inductive Component
  | placeholders | references | chain | renderer | notifier | subscriber | manager | factory | loader
  deriving DecidableEq, Repr

def Component.name : Component → Text
  | placeholders => "placeholders"
  | references => "references"
  | chain => "chain"
  | renderer => "renderer"
  | notifier => "notifier"
  | subscriber => "subscriber"
  | manager => "manager"
  | factory => "factory"
  | loader => "loader"

private def flag (b : Bool) : Value := .bool b

private def count (n : Nat) : Value := .int n

private def tag (l : Locale) : Value := .text l.tag

private def names (ts : List Text) : Value := .list (ts.map .text)

/-- Component, level, name and fields of a report. -/
structure Entry where
  component : Component
  level : Level
  event : Text
  fields : List (Text × Value)

def entry : Report → Entry
  | missingArguments key placeholders =>
    ⟨.placeholders, .error, "missing_arguments",
      [("key", key), ("placeholders", names placeholders)]⟩
  | missingArgument key argument =>
    ⟨.placeholders, .error, "missing_argument", [("key", key), ("argument", argument)]⟩
  | argumentFormatFailed key argument error =>
    ⟨.placeholders, .error, "argument_format_failed",
      [("key", key), ("argument", argument), ("error", error)]⟩
  | missingLocalizedArguments key references =>
    ⟨.references, .error, "missing_localized_arguments",
      [("key", key), ("references", names references)]⟩
  | missingLocalizedArgumentId key identifier =>
    ⟨.references, .error, "missing_localized_argument_id",
      [("key", key), ("identifier", identifier)]⟩
  | missingDictionaryValue key lookupKey =>
    ⟨.references, .error, "missing_dictionary_value", [("key", key), ("lookup_key", lookupKey)]⟩
  | missingDictionaryTag key lookupKey tag =>
    ⟨.references, .error, "missing_dictionary_tag",
      [("key", key), ("lookup_key", lookupKey), ("tag", tag)]⟩
  | dictionaryFetchFailed key lookupKey error =>
    ⟨.references, .error, "dictionary_fetch_failed",
      [("key", key), ("lookup_key", lookupKey), ("error", error)]⟩
  | ruleFailed rule content error =>
    ⟨.chain, .error, "rule_failed", [("rule", rule), ("content", content), ("error", error)]⟩
  | templateNotFound key locale fallback =>
    ⟨.renderer, .error, "template_not_found",
      [("key", key), ("locale", locale.elim .none .text), ("fallback", fallback)]⟩
  | templateFetchFailed key error fallback =>
    ⟨.renderer, .error, "template_fetch_failed",
      [("key", key), ("error", error), ("fallback", fallback)]⟩
  | subscribedEventHandler handler eventType total =>
    ⟨.notifier, .debug, "subscribed_event_handler",
      [("handler", handler), ("event_type", eventType), ("total_handlers", count total)]⟩
  | unsubscribedEventHandler eventType =>
    ⟨.notifier, .debug, "unsubscribed_event_handler", [("event_type", eventType)]⟩
  | clearedAllSubscriptions => ⟨.notifier, .debug, "cleared_all_subscriptions", []⟩
  | publishingEvent eventType handlers =>
    ⟨.notifier, .info, "publishing_event",
      [("event_type", eventType), ("handler_count", count handlers)]⟩
  | eventHandlerFailed handler eventType error =>
    ⟨.notifier, .error, "event_handler_failed",
      [("handler", handler), ("event_type", eventType), ("error", error)]⟩
  | localeChangedReceived locale =>
    ⟨.subscriber, .debug, "locale_changed_received", [("locale", locale)]⟩
  | initializedLocaleManager locale fallback =>
    ⟨.manager, .info, "initialized_locale_manager",
      [("locale", tag locale), ("fallback_locale", tag fallback)]⟩
  | localeChanged locale previous =>
    ⟨.manager, .info, "locale_changed",
      [("locale", tag locale), ("previous_locale", tag previous)]⟩
  | loadedAllTranslations locales =>
    ⟨.manager, .info, "loaded_all_translations", [("locale_count", count locales)]⟩
  | loadedLocaleTranslations locale =>
    ⟨.manager, .info, "loaded_locale_translations", [("locale", tag locale)]⟩
  | reloadedAllTranslations => ⟨.manager, .info, "reloaded_all_translations", []⟩
  | usedFallbackTranslation key requested fallback =>
    ⟨.manager, .info, "used_fallback_translation",
      [("key", key), ("requested_locale", tag requested), ("fallback_locale", tag fallback)]⟩
  | managerCreatedWithPreload directory locales =>
    ⟨.factory, .info, "locale_manager_created_with_preload",
      [("translations_dir", directory), ("locale_count", count locales)]⟩
  | managerCreatedLazy directory =>
    ⟨.factory, .info, "locale_manager_created_lazy", [("translations_dir", directory)]⟩
  | initializedLoader directory useCache =>
    ⟨.loader, .info, "initialized_yaml_loader",
      [("translations_dir", directory), ("use_cache", flag useCache)]⟩
  | loadedFromCache locale => ⟨.loader, .debug, "loaded_from_cache", [("locale", tag locale)]⟩
  | loadedTranslations locale files templates tables =>
    ⟨.loader, .info, "loaded_translations",
      [("locale", tag locale), ("file_count", count files),
        ("template_count", count templates), ("table_count", count tables)]⟩
  | parseFailed file => ⟨.loader, .error, "yaml_parse_error", [("file", file)]⟩
  | skippedUnrecognizedFile file =>
    ⟨.loader, .debug, "skipped_unrecognized_locale_file", [("file", file)]⟩
  | couldNotLoadLocale locale => ⟨.loader, .warning, "could_not_load_locale", [("locale", tag locale)]⟩
  | invalidDocument file =>
    ⟨.loader, .warning, "invalid_yaml_format", [("file", file), ("expected", .text "dict")]⟩
  | invalidSection file part =>
    ⟨.loader, .warning, "invalid_section_format",
      [("file", file), ("section", part.name), ("expected", .text "dict")]⟩
  | invalidTableRow file lookupKey =>
    ⟨.loader, .warning, "invalid_table_row",
      [("file", file), ("lookup_key", lookupKey), ("expected", .text "dict or str")]⟩
  | clearedTranslationCache => ⟨.loader, .info, "cleared_translation_cache", []⟩

namespace Entry

def fieldText (e : Entry) (field : Text) : Text :=
  match e.fields.lookup field with
  | some (.text t) => t
  | _ => []

/-- The order of entries whose causes came in no particular order: by event, file and locale. -/
def le (e e' : Entry) : Bool :=
  if e.event ≠ e'.event then e.event.le e'.event
  else
    let (file, file') := (e.fieldText "file", e'.fieldText "file")
    if file ≠ file' then Text.le file file'
    else Text.le (e.fieldText "locale") (e'.fieldText "locale")

end Entry

end Report

end Phrasebook
