/-! # The style sheet

How the pages look. The text is served as it stands.
-/

namespace CallDesk.Web.Asset

def styleLines : List String := [
  ":root \x7b",
  "  --bg: #f6f7fb;",
  "  --surface: #ffffff;",
  "  --text: #1d2433;",
  "  --muted: #6b7385;",
  "  --border: #e3e6ee;",
  "  --primary: #4f46e5;",
  "  --primary-dark: #4338ca;",
  "  --success: #16a34a;",
  "  --warning: #d97706;",
  "  --danger: #dc2626;",
  "  --info: #0284c7;",
  "\x7d",
  "",
  "* \x7b box-sizing: border-box; \x7d",
  "",
  "body \x7b",
  "  margin: 0;",
  "  font-family: -apple-system, BlinkMacSystemFont, \"Segoe UI\", Roboto, sans-serif;",
  "  background: var(--bg);",
  "  color: var(--text);",
  "  display: flex;",
  "  min-height: 100vh;",
  "\x7d",
  "",
  "a \x7b color: var(--primary); text-decoration: none; \x7d",
  "a:hover \x7b text-decoration: underline; \x7d",
  "",
  ".muted \x7b color: var(--muted); \x7d",
  "",
  "/* Shell */",
  ".topbar \x7b",
  "  position: fixed; top: 0; left: 0; right: 0; height: 56px;",
  "  display: flex; align-items: center; justify-content: space-between;",
  "  padding: 0 24px; background: var(--surface); border-bottom: 1px solid var(--border);",
  "\x7d",
  ".public-main \x7b width: 100%; max-width: 1080px; margin: 80px auto 40px; padding: 0 24px; \x7d",
  "",
  ".sidebar \x7b",
  "  width: 220px; flex-shrink: 0; background: #111827; color: #fff;",
  "  display: flex; flex-direction: column; padding: 20px 12px; gap: 4px;",
  "\x7d",
  ".sidebar .brand \x7b color: #fff; margin-bottom: 20px; padding: 0 12px; \x7d",
  ".nav-link \x7b color: #cbd5e1; padding: 8px 12px; border-radius: 6px; \x7d",
  ".nav-link:hover \x7b background: #1f2937; text-decoration: none; \x7d",
  ".nav-link.active \x7b background: var(--primary); color: #fff; \x7d",
  ".sign-out \x7b margin-top: auto; \x7d",
  ".dashboard-main \x7b flex: 1; padding: 32px; max-width: 1200px; \x7d",
  "",
  ".brand \x7b font-weight: 700; font-size: 1.25rem; color: var(--text); \x7d",
  "",
  ".page-header \x7b display: flex; align-items: center; justify-content: space-between; margin-bottom: 24px; \x7d",
  ".page-header h1 \x7b margin: 0; font-size: 1.5rem; \x7d",
  "",
  ".card \x7b",
  "  background: var(--surface); border: 1px solid var(--border); border-radius: 10px;",
  "  padding: 20px; margin-bottom: 20px;",
  "\x7d",
  ".card h2 \x7b margin-top: 0; font-size: 1.1rem; \x7d",
  ".card-header \x7b display: flex; justify-content: space-between; align-items: baseline; \x7d",
  "",
  "/* Buttons */",
  ".btn \x7b",
  "  display: inline-block; padding: 8px 16px; border-radius: 6px; border: 1px solid transparent;",
  "  font-size: 0.9rem; cursor: pointer; background: var(--surface); color: var(--text);",
  "\x7d",
  ".btn:hover \x7b text-decoration: none; \x7d",
  ".btn-primary \x7b background: var(--primary); color: #fff; \x7d",
  ".btn-primary:hover \x7b background: var(--primary-dark); \x7d",
  ".btn-secondary \x7b border-color: var(--border); \x7d",
  ".btn-sm \x7b padding: 4px 10px; font-size: 0.8rem; \x7d",
  ".btn-lg \x7b padding: 12px 24px; font-size: 1rem; \x7d",
  ".btn:disabled, button:disabled \x7b opacity: 0.5; cursor: not-allowed; \x7d",
  "",
  "/* Stats */",
  ".stats-grid \x7b display: grid; grid-template-columns: repeat(auto-fill, minmax(160px, 1fr)); gap: 16px; margin-bottom: 24px; \x7d",
  ".stat-card, .stat \x7b",
  "  background: var(--surface); border: 1px solid var(--border); border-radius: 10px;",
  "  padding: 16px; display: flex; flex-direction: column;",
  "\x7d",
  ".stat-value \x7b font-size: 1.6rem; font-weight: 700; \x7d",
  ".stat-label \x7b color: var(--muted); font-size: 0.85rem; \x7d",
  ".stat-success .stat-value \x7b color: var(--success); \x7d",
  ".stat-warning .stat-value \x7b color: var(--warning); \x7d",
  ".stat-danger .stat-value \x7b color: var(--danger); \x7d",
  "",
  "/* Tables */",
  ".table \x7b width: 100%; border-collapse: collapse; background: var(--surface); \x7d",
  ".table th, .table td \x7b text-align: left; padding: 10px 12px; border-bottom: 1px solid var(--border); \x7d",
  ".table th \x7b color: var(--muted); font-weight: 600; font-size: 0.8rem; text-transform: uppercase; \x7d",
  "",
  ".badge \x7b display: inline-block; padding: 2px 8px; border-radius: 999px; font-size: 0.75rem; background: var(--border); \x7d",
  ".badge-success \x7b background: #dcfce7; color: var(--success); \x7d",
  ".badge-warning \x7b background: #fef3c7; color: var(--warning); \x7d",
  ".badge-danger \x7b background: #fee2e2; color: var(--danger); \x7d",
  ".badge-info \x7b background: #e0f2fe; color: var(--info); \x7d",
  "",
  "/* Pagination */",
  ".pagination \x7b display: flex; align-items: center; justify-content: center; gap: 16px; margin-top: 16px; \x7d",
  ".pagination-btn \x7b padding: 6px 14px; border: 1px solid var(--border); border-radius: 6px; background: var(--surface); \x7d",
  "",
  "/* States */",
  ".loading \x7b display: flex; flex-direction: column; align-items: center; padding: 40px; color: var(--muted); \x7d",
  ".spinner \x7b",
  "  width: 32px; height: 32px; border: 3px solid var(--border); border-top-color: var(--primary);",
  "  border-radius: 50%; animation: spin 0.8s linear infinite;",
  "\x7d",
  "@keyframes spin \x7b to \x7b transform: rotate(360deg); \x7d \x7d",
  "",
  ".empty-state \x7b text-align: center; padding: 48px 24px; color: var(--muted); \x7d",
  ".empty-state h3, .empty-state h1 \x7b color: var(--text); \x7d",
  "",
  ".alert \x7b border-radius: 8px; padding: 12px 16px; margin-bottom: 16px; display: flex; align-items: center; justify-content: space-between; gap: 12px; \x7d",
  ".alert p \x7b margin: 0; \x7d",
  ".alert-error \x7b background: #fee2e2; color: var(--danger); border: 1px solid #fecaca; \x7d",
  ".form-error \x7b color: var(--danger); font-size: 0.875rem; margin: 0; \x7d",
  ".alert-success \x7b background: #dcfce7; color: var(--success); border: 1px solid #bbf7d0; flex-direction: column; align-items: flex-start; \x7d",
  "",
  "/* Forms */",
  ".form \x7b display: flex; flex-direction: column; gap: 8px; max-width: 640px; \x7d",
  ".form label \x7b font-weight: 600; font-size: 0.9rem; margin-top: 8px; \x7d",
  ".form input[type=text], .form select, .form textarea \x7b",
  "  padding: 8px 10px; border: 1px solid var(--border); border-radius: 6px; font: inherit;",
  "\x7d",
  ".form-actions \x7b display: flex; justify-content: flex-end; gap: 8px; margin-top: 16px; \x7d",
  ".upload-form \x7b flex-direction: row; align-items: center; gap: 12px; \x7d",
  "",
  "/* Call detail */",
  ".back-link \x7b display: inline-block; margin-bottom: 16px; \x7d",
  ".call-meta \x7b display: grid; grid-template-columns: 120px 1fr; gap: 8px 16px; margin: 0; \x7d",
  ".call-meta dt \x7b color: var(--muted); \x7d",
  ".call-meta dd \x7b margin: 0; \x7d",
  ".audio-player \x7b display: flex; align-items: center; gap: 12px; \x7d",
  ".audio-player audio \x7b flex: 1; \x7d",
  "",
  ".transcript-turns \x7b list-style: none; padding: 0; margin: 0; display: flex; flex-direction: column; gap: 12px; \x7d",
  ".turn \x7b max-width: 75%; padding: 10px 14px; border-radius: 12px; \x7d",
  ".turn p \x7b margin: 4px 0 0; \x7d",
  ".turn time \x7b margin-left: 8px; color: var(--muted); font-size: 0.75rem; \x7d",
  ".turn-role \x7b font-weight: 600; font-size: 0.8rem; \x7d",
  ".turn-assistant \x7b background: #eef2ff; align-self: flex-start; \x7d",
  ".turn-user \x7b background: #f1f5f9; align-self: flex-end; \x7d",
  "",
  "/* Landing */",
  ".hero \x7b text-align: center; padding: 64px 0 40px; \x7d",
  ".hero h1 \x7b font-size: 2.5rem; margin-bottom: 12px; \x7d",
  ".hero p \x7b color: var(--muted); font-size: 1.1rem; max-width: 640px; margin: 0 auto 24px; \x7d",
  ".features \x7b display: grid; grid-template-columns: repeat(auto-fit, minmax(220px, 1fr)); gap: 20px; \x7d",
  ".feature \x7b background: var(--surface); border: 1px solid var(--border); border-radius: 10px; padding: 20px; \x7d",
  "",
  ".auth-callback \x7b max-width: 480px; margin: 40px auto; text-align: center; \x7d",
  "",
  ".assistant-widget \x7b",
  "  position: fixed; right: 24px; bottom: 24px; width: 52px; height: 52px; border-radius: 50%;",
  "  background: var(--primary); color: #fff; display: flex; align-items: center; justify-content: center;",
  "  font-size: 1.4rem; box-shadow: 0 6px 20px rgba(79, 70, 229, 0.4);",
  "\x7d",
  ".assistant-widget:hover \x7b text-decoration: none; background: var(--primary-dark); \x7d"]

/-- The text of the style sheet; every line has an end. -/
def style : String := String.join (styleLines.map (· ++ "\n"))

end CallDesk.Web.Asset
