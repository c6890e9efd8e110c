/-! # The page script

What the pages do in a browser: they fetch their fragments, post the address of a callback and
watch uploads. The text is served as it stands.
-/

namespace CallDesk.Web.Asset

def scriptLines : List String := [
  "// Voxdial dashboard page script.",
  "//",
  "// - Elements with data-fragment are replaced by the HTML served at that URL.",
  "// - The auth callback page posts its URL to the session endpoint and follows",
  "//   the returned navigation.",
  "// - Upload forms refuse files with the wrong extension and disable their",
  "//   controls while the request is in flight.",
  "",
  "(function () \x7b",
  "  \"use strict\";",
  "",
  "  function loadFragments(root) \x7b",
  "    root.querySelectorAll(\"[data-fragment]\").forEach(function (el) \x7b",
  "      var url = el.getAttribute(\"data-fragment\");",
  "      el.removeAttribute(\"data-fragment\");",
  "      fetch(url, \x7b credentials: \"same-origin\", headers: \x7b Accept: \"text/html\" \x7d \x7d)",
  "        .then(function (res) \x7b return res.text(); \x7d)",
  "        .then(function (html) \x7b",
  "          el.innerHTML = html;",
  "          loadFragments(el);",
  "        \x7d)",
  "        .catch(function () \x7b",
  "          el.innerHTML =",
  "            '<div class=\"alert alert-error\" role=\"alert\"><p>Unable to reach the server. Please try again.</p></div>';",
  "        \x7d);",
  "    \x7d);",
  "  \x7d",
  "",
  "  function resolveCallback() \x7b",
  "    var el = document.querySelector(\"[data-auth-session]\");",
  "    if (!el) return;",
  "",
  "    fetch(el.getAttribute(\"data-auth-session\"), \x7b",
  "      method: \"POST\",",
  "      credentials: \"same-origin\",",
  "      headers: \x7b \"Content-Type\": \"application/json\" \x7d,",
  "      body: JSON.stringify(\x7b url: window.location.href \x7d),",
  "    \x7d)",
  "      .then(function (res) \x7b return res.json(); \x7d)",
  "      .then(function (result) \x7b",
  "        el.innerHTML = result.html;",
  "        if (result.redirect) \x7b",
  "          window.setTimeout(function () \x7b",
  "            window.location.replace(result.redirect);",
  "          \x7d, result.delay_ms || 0);",
  "        \x7d",
  "      \x7d)",
  "      .catch(function () \x7b",
  "        el.innerHTML =",
  "          '<div class=\"alert alert-error\" role=\"alert\"><p>Authentication failed</p>' +",
  "          '<a class=\"btn btn-secondary\" href=\"/login\">Try Again</a></div>';",
  "      \x7d);",
  "  \x7d",
  "",
  "  function hasExpectedExtension(form) \x7b",
  "    var extension = form.getAttribute(\"data-extension\");",
  "    if (!extension) return true;",
  "",
  "    var input = form.querySelector(\"input[type=file]\");",
  "    var file = input && input.files && input.files[0];",
  "    return !!file && file.name.toLowerCase().endsWith(extension);",
  "  \x7d",
  "",
  "  function guardUploads() \x7b",
  "    document.querySelectorAll(\"form[data-busy-label]\").forEach(function (form) \x7b",
  "      form.addEventListener(\"submit\", function (event) \x7b",
  "        if (!hasExpectedExtension(form)) \x7b",
  "          event.preventDefault();",
  "          var error = form.querySelector(\"[data-upload-error]\");",
  "          if (error) \x7b",
  "            error.textContent = form.getAttribute(\"data-extension-message\");",
  "            error.hidden = false;",
  "          \x7d",
  "          return;",
  "        \x7d",
  "",
  "        var button = form.querySelector(\"button[type=submit]\");",
  "        // Disable after the browser has captured the form data.",
  "        window.setTimeout(function () \x7b",
  "          form.querySelectorAll(\"input, button\").forEach(function (control) \x7b",
  "            control.disabled = true;",
  "          \x7d);",
  "          if (button) button.textContent = form.getAttribute(\"data-busy-label\");",
  "        \x7d, 0);",
  "      \x7d);",
  "    \x7d);",
  "  \x7d",
  "",
  "  document.addEventListener(\"DOMContentLoaded\", function () \x7b",
  "    loadFragments(document);",
  "    resolveCallback();",
  "    guardUploads();",
  "  \x7d);",
  "\x7d)();"]

/-- The text of the page script; every line has an end. -/
def script : String := String.join (scriptLines.map (· ++ "\n"))

end CallDesk.Web.Asset
