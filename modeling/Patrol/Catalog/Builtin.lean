import Patrol.Rule.Definition

/-! The rules that come with the program, in the order in which they are held against a text. -/
namespace Patrol.Catalog
open Patrol.Language

/-- The dialects with types. -/
def typedLanguages : List Language := [typeScript, vue]

def builtinDefinitions : List Rule.Definition := [
  { id := "no-var"
    title := "CRITICAL ERROR"
    marker := "🦖"
    pattern := "\\bvar\\s+"
    message :=
      "\"Which era are you from? The Jurassic?\"\n" ++
      "Stop using var. Use let or const instead."
    languages := [] },
  { id := "no-options-api"
    title := "LEGACY DETECTED"
    marker := "👴"
    pattern := "export\\s+default\\s+\\\x7b\\s*data\\s*\\(\\)"
    message :=
      "\"It is 2026. How long are you going to keep writing Vue 2?\"\n" ++
      "Move this component to <script setup>."
    languages := [] },
  { id := "no-axios-import"
    title := "FORBIDDEN MODULE"
    marker := "🚫"
    pattern := "from\\s+['\"]axios['\"]"
    message :=
      "\"Nuxt already ships useFetch and ofetch.\"\n" ++
      "Why load axios and make the site heavier? Remove it."
    languages := [] },
  { id := "no-axios-require"
    title := "FORBIDDEN MODULE"
    marker := "🚫"
    pattern := "require\\s*\\(\\s*[\"']axios[\"']\\s*\\)"
    message :=
      "\"Nuxt already ships useFetch and ofetch.\"\n" ++
      "Why load axios and make the site heavier? Remove it."
    languages := [] },
  { id := "no-moment"
    title := "BLOATWARE ALERT"
    marker := "🐘"
    pattern := "from\\s+['\"]moment['\"]"
    message :=
      "\"Heavy on the machine, heavy on the page, heavy on the heart.\"\n" ++
      "Use day.js instead. Please. 🙏"
    languages := [] },
  { id := "no-full-lodash"
    title := "BLOATWARE ALERT"
    marker := "📦"
    pattern := "from\\s+['\"]lodash['\"]"
    message :=
      "\"The whole of lodash!? What for?\"\n" ++
      "If you only need a few helpers, import them one by one, e.g. lodash-es/debounce,\n" ++
      "or write them yourself. Modern JavaScript has most of them built in."
    languages := [] },
  { id := "no-direct-dom"
    title := "DOM MANIPULATION DETECTED"
    marker := "🤮"
    pattern := "document\\.(getElementById|querySelector|querySelectorAll|getElementsByClassName)\\s*\\("
    message :=
      "\"Still poking the DOM directly? This is not jQuery.\"\n" ++
      "Use ref/reactive and let the template do the work.\n" ++
      "This is Vue, not vanilla JS."
    languages := [] },
  { id := "no-jquery"
    title := "ARCHAEOLOGICAL DISCOVERY"
    marker := "⛏️"
    pattern := "\\$\\(.*?\\)"
    message :=
      "\"jQuery in 2026!? Did you dig this up from an ancient site?\"\n" ++
      "Vue has a reactivity system for this.\n" ++
      "No more $('.class').hide()."
    languages := [] },
  { id := "no-eval"
    title := "SECURITY BREACH"
    marker := "💀"
    pattern := "eval\\s*\\("
    message :=
      "\"eval()!? What are you trying to do?\"\n" ++
      "eval is evil. It opens a serious XSS hole.\n" ++
      "Remove it before someone uses it against you."
    languages := [] },
  { id := "no-inner-html"
    title := "XSS VULNERABILITY"
    marker := "🕳️"
    pattern := "innerHTML\\s*="
    message :=
      "\"Raw innerHTML is an open door for attackers.\"\n" ++
      "Use v-html only if you really must (and sanitize the input),\n" ++
      "or better, use template bindings."
    languages := [] },
  { id := "no-console"
    title := "CONSOLE SPAM"
    marker := "🗑️"
    pattern := "console\\.(log|warn|info|debug)\\s*\\("
    message :=
      "\"console.log left behind!? Shipping that to production?\"\n" ++
      "Remove it, or use a logger that can be switched off in production.\n" ++
      "Professionals do not leave debug logging lying around."
    languages := [] },
  { id := "no-promise-wrapper"
    title := "PROMISE ANTIPATTERN"
    marker := "🤦"
    pattern := "new\\s+Promise\\s*\\(\\s*(?:async\\s+)?\\(?[^)]*\\)?\\s*=>\\s*\\\x7b[\\s\\S]*?\\\x7d\\s*\\)"
    message :=
      "\"Wrapping async code in new Promise? Textbook antipattern.\"\n" ++
      "If you already have an async function, return the value directly.\n" ++
      "There is no need for another new Promise layer."
    languages := [] },
  { id := "no-loose-equality"
    title := "LOOSE COMPARISON"
    marker := "🎰"
    pattern := "(?:^|[^=!<>])==(?:[^=]|$)"
    message :=
      "\"==!? Gambling with type coercion?\"\n" ++
      "1 == \"1\" is true, did you know that?\n" ++
      "Always use ===, or expect strange bugs."
    languages := [] },
  { id := "no-loose-inequality"
    title := "LOOSE COMPARISON"
    marker := "🎰"
    pattern := "!=(?:[^=]|$)"
    message :=
      "\"!=!? Writing code without any protection?\"\n" ++
      "Always use !==. Strict comparison is safer."
    languages := [] },
  { id := "no-then-chain"
    title := "CALLBACK HELL 2.0"
    marker := "🍝"
    pattern := "\\.then\\s*\\(.*\\)\\s*\\.then"
    message :=
      "\"A promise chain as long as a snake!? 🐍\"\n" ++
      ".then().then().then() is hard to read.\n" ++
      "Use async/await. It is much cleaner."
    languages := [] },
  { id := "no-any"
    title := "TYPE SAFETY VIOLATION"
    marker := "🏴‍☠️"
    pattern := "(?m)\\bany(?:\\s*[;,)\\]\x7d]|\\s*$)"
    message :=
      "\"any!? Then what is TypeScript for?\"\n" ++
      "Give it a precise type, or at least use unknown.\n" ++
      "Writing any is writing JavaScript with extra steps."
    languages := typedLanguages },
  { id := "no-any-annotation"
    title := "TYPE SAFETY VIOLATION"
    marker := "🏴‍☠️"
    pattern := ":\\s*any\\b"
    message :=
      "\"Declaring the type as any!? Then why use TypeScript?\"\n" ++
      "Write the type out, or go back to JavaScript.\n" ++
      "any means giving up on the type system."
    languages := typedLanguages },
  { id := "no-ts-ignore"
    title := "CRIME SCENE"
    marker := "🚨"
    pattern := "@ts-ignore"
    message :=
      "\"@ts-ignore!?\"\n" ++
      "Blindfolding TypeScript does not make the bug go away.\n" ++
      "Fix the types instead of telling the compiler to be quiet."
    languages := typedLanguages },
  { id := "no-ts-nocheck"
    title := "TOTAL ANARCHY"
    marker := "🔥"
    pattern := "@ts-nocheck"
    message :=
      "\"@ts-nocheck!? Turning TypeScript off for the whole file?\"\n" ++
      "At that point just rename it to .js.\n" ++
      "Stop pretending to write TypeScript."
    languages := typedLanguages },
  { id := "no-settimeout-zero"
    title := "HACK DETECTED"
    marker := "🩹"
    pattern := "setTimeout\\s*\\(\\s*(?:function|\\([^)]*\\)\\s*=>)\\s*.*,\\s*0\\s*\\)"
    message :=
      "\"setTimeout(..., 0)!? What do we call this... a band-aid fix?\"\n" ++
      "Fix the root cause instead of hacking around it with setTimeout 0.\n" ++
      "Use nextTick() if you need to wait for a DOM update."
    languages := [] },
  { id := "no-inline-style"
    title := "INLINE STYLE DETECTED"
    marker := "🎨"
    pattern := "style\\s*=\\s*[\"']\\s*[^\"']+[\"']"
    message :=
      "\"Inline styles!? Back to HTML4?\"\n" ++
      "Use a CSS class or Tailwind instead.\n" ++
      "Inline style is an unmaintainable nightmare."
    languages := [] },
  { id := "no-important"
    title := "CSS WAR CRIME"
    marker := "⚔️"
    pattern := "!important"
    message :=
      "\"!important!? The CSS specificity war has begun.\"\n" ++
      "Needing !important means the CSS architecture is already broken.\n" ++
      "Sort out the specificity instead."
    languages := [] } ]

end Patrol.Catalog
