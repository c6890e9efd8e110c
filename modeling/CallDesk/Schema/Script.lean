/-! # The script of the transcripts

What the migration tells a database to do. Every step can be repeated. The tables of calls and
recordings, and the function that keeps a time of change, are there before.
-/

namespace CallDesk.Schema

def transcriptsScriptLines : List String := [
  "-- Provider call identifiers, structured transcripts and recording lifecycle.",
  "-- Applies on top of the platform schema, which already owns the calls and",
  "-- recordings tables and the update_updated_at_column() trigger function.",
  "",
  "-- calls: provider identifier and the raw turn array",
  "ALTER TABLE calls ADD COLUMN IF NOT EXISTS external_call_uuid VARCHAR(255);",
  "ALTER TABLE calls ADD COLUMN IF NOT EXISTS transcript_json JSONB;",
  "",
  "CREATE INDEX IF NOT EXISTS idx_calls_external_call_uuid",
  "    ON calls (external_call_uuid);",
  "",
  "COMMENT ON COLUMN calls.external_call_uuid IS 'Call identifier assigned by the telephony provider';",
  "COMMENT ON COLUMN calls.transcript_json IS 'Ordered array of \x7brole, content, timestamp\x7d turns';",
  "",
  "-- recordings: tenant ownership and upload state",
  "ALTER TABLE recordings ADD COLUMN IF NOT EXISTS tenant_id UUID;",
  "ALTER TABLE recordings ADD COLUMN IF NOT EXISTS status VARCHAR(20) NOT NULL DEFAULT 'pending';",
  "",
  "DO $$",
  "BEGIN",
  "    IF NOT EXISTS (",
  "        SELECT 1 FROM pg_constraint WHERE conname = 'recordings_status_check'",
  "    ) THEN",
  "        ALTER TABLE recordings",
  "            ADD CONSTRAINT recordings_status_check",
  "            CHECK (status IN ('pending', 'uploading', 'completed', 'failed'));",
  "    END IF;",
  "END $$;",
  "",
  "CREATE INDEX IF NOT EXISTS idx_recordings_tenant_id ON recordings (tenant_id);",
  "CREATE INDEX IF NOT EXISTS idx_recordings_status ON recordings (status);",
  "",
  "-- transcripts: one row per call",
  "CREATE TABLE IF NOT EXISTS transcripts (",
  "    id UUID PRIMARY KEY DEFAULT gen_random_uuid(),",
  "    call_id UUID NOT NULL UNIQUE REFERENCES calls (id) ON DELETE CASCADE,",
  "    turns JSONB NOT NULL DEFAULT '[]'::jsonb,",
  "    full_text TEXT NOT NULL DEFAULT '',",
  "    word_count INTEGER NOT NULL DEFAULT 0 CHECK (word_count >= 0),",
  "    turn_count INTEGER NOT NULL DEFAULT 0 CHECK (turn_count >= 0),",
  "    duration_seconds NUMERIC(10, 2),",
  "    created_at TIMESTAMPTZ NOT NULL DEFAULT NOW(),",
  "    updated_at TIMESTAMPTZ NOT NULL DEFAULT NOW()",
  ");",
  "",
  "CREATE INDEX IF NOT EXISTS idx_transcripts_call_id ON transcripts (call_id);",
  "CREATE INDEX IF NOT EXISTS idx_transcripts_full_text",
  "    ON transcripts USING GIN (to_tsvector('english', full_text));",
  "",
  "DROP TRIGGER IF EXISTS update_transcripts_updated_at ON transcripts;",
  "CREATE TRIGGER update_transcripts_updated_at",
  "    BEFORE UPDATE ON transcripts",
  "    FOR EACH ROW",
  "    EXECUTE FUNCTION update_updated_at_column();"]

/-- The text of the script; every line has an end. -/
def transcriptsScript : String := String.join (transcriptsScriptLines.map (· ++ "\n"))

end CallDesk.Schema
