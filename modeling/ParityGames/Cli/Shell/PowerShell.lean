import ParityGames.Cli.Shell.Names

/-!
# The PowerShell completion script

The PowerShell script registers an argument completer that asks the
program for candidates with `__complete`, with ActiveHelp turned off.
-/

namespace ParityGames

namespace Cli

namespace Shell

/-- The PowerShell completion script of a program. -/
def powerShellScript (name : String) : String := String.join [
  "# powershell completion for " ++ (headerName name) ++ " -*- shell-script -*-\n",
  "\n",
  "function __" ++ name ++ "_debug \x7b\n",
  "    if ($env:BASH_COMP_DEBUG_FILE) \x7b\n",
  "        \"$args\" | Out-File -Append -FilePath \"$env:BASH_COMP_DEBUG_FILE\"\n",
  "    \x7d\n",
  "\x7d\n",
  "\n",
  "filter __" ++ name ++ "_escapeStringWithSpecialChars \x7b\n",
  "    $_ -replace '\\s|#|@|\\$|;|,|''|\\\x7b|\\\x7d|\\(|\\)|\"|`|\\||<|>|&','`$&'\n",
  "\x7d\n",
  "\n",
  "[scriptblock]$\x7b__" ++ name ++ "CompleterBlock\x7d = \x7b\n",
  "    param(\n",
  "            $WordToComplete,\n",
  "            $CommandAst,\n",
  "            $CursorPosition\n",
  "        )\n",
  "\n",
  "    # Get the current command line and convert into a string\n",
  "    $Command = $CommandAst.CommandElements\n",
  "    $Command = \"$Command\"\n",
  "\n",
  "    __" ++ name ++ "_debug \"\"\n",
  "    __" ++ name ++ "_debug \"========= starting completion logic ==========\"\n",
  "    __" ++ name ++ "_debug \"WordToComplete: $WordToComplete Command: $Command CursorPosition: $CursorPosition\"\n",
  "\n",
  "    # The user could have moved the cursor backwards on the command-line.\n",
  "    # We need to trigger completion from the $CursorPosition location, so we need\n",
  "    # to truncate the command-line ($Command) up to the $CursorPosition location.\n",
  "    # Make sure the $Command is longer then the $CursorPosition before we truncate.\n",
  "    # This happens because the $Command does not include the last space.\n",
  "    if ($Command.Length -gt $CursorPosition) \x7b\n",
  "        $Command=$Command.Substring(0,$CursorPosition)\n",
  "    \x7d\n",
  "    __" ++ name ++ "_debug \"Truncated command: $Command\"\n",
  "\n",
  "    $ShellCompDirectiveError=1\n",
  "    $ShellCompDirectiveNoSpace=2\n",
  "    $ShellCompDirectiveNoFileComp=4\n",
  "    $ShellCompDirectiveFilterFileExt=8\n",
  "    $ShellCompDirectiveFilterDirs=16\n",
  "    $ShellCompDirectiveKeepOrder=32\n",
  "\n",
  "    # Prepare the command to request completions for the program.\n",
  "    # Split the command at the first space to separate the program and arguments.\n",
  "    $Program,$Arguments = $Command.Split(\" \",2)\n",
  "\n",
  "    $RequestComp=\"$Program __complete $Arguments\"\n",
  "    __" ++ name ++ "_debug \"RequestComp: $RequestComp\"\n",
  "\n",
  "    # we cannot use $WordToComplete because it\n",
  "    # has the wrong values if the cursor was moved\n",
  "    # so use the last argument\n",
  "    if ($WordToComplete -ne \"\" ) \x7b\n",
  "        $WordToComplete = $Arguments.Split(\" \")[-1]\n",
  "    \x7d\n",
  "    __" ++ name ++ "_debug \"New WordToComplete: $WordToComplete\"\n",
  "\n",
  "\n",
  "    # Check for flag with equal sign\n",
  "    $IsEqualFlag = ($WordToComplete -Like \"--*=*\" )\n",
  "    if ( $IsEqualFlag ) \x7b\n",
  "        __" ++ name ++ "_debug \"Completing equal sign flag\"\n",
  "        # Remove the flag part\n",
  "        $Flag,$WordToComplete = $WordToComplete.Split(\"=\",2)\n",
  "    \x7d\n",
  "\n",
  "    if ( $WordToComplete -eq \"\" -And ( -Not $IsEqualFlag )) \x7b\n",
  "        # If the last parameter is complete (there is a space following it)\n",
  "        # We add an extra empty parameter so we can indicate this to the go method.\n",
  "        __" ++ name ++ "_debug \"Adding extra empty parameter\"\n",
  "        # PowerShell 7.2+ changed the way how the arguments are passed to executables,\n",
  "        # so for pre-7.2 or when Legacy argument passing is enabled we need to use\n",
  "        # `\"`\" to pass an empty argument, a \"\" or '' does not work!!!\n",
  "        if ($PSVersionTable.PsVersion -lt [version]'7.2.0' -or\n",
  "            ($PSVersionTable.PsVersion -lt [version]'7.3.0' -and -not [ExperimentalFeature]::IsEnabled(\"PSNativeCommandArgumentPassing\")) -or\n",
  "            (($PSVersionTable.PsVersion -ge [version]'7.3.0' -or [ExperimentalFeature]::IsEnabled(\"PSNativeCommandArgumentPassing\")) -and\n",
  "              $PSNativeCommandArgumentPassing -eq 'Legacy')) \x7b\n",
  "             $RequestComp=\"$RequestComp\" + ' `\"`\"'\n",
  "        \x7d else \x7b\n",
  "             $RequestComp=\"$RequestComp\" + ' \"\"'\n",
  "        \x7d\n",
  "    \x7d\n",
  "\n",
  "    __" ++ name ++ "_debug \"Calling $RequestComp\"\n",
  "    # First disable ActiveHelp which is not supported for Powershell\n",
  "    $\x7benv:" ++ (envPrefix name) ++ "_ACTIVE_HELP\x7d=0\n",
  "\n",
  "    #call the command store the output in $out and redirect stderr and stdout to null\n",
  "    # $Out is an array contains each line per element\n",
  "    Invoke-Expression -OutVariable out \"$RequestComp\" 2>&1 | Out-Null\n",
  "\n",
  "    # get directive from last line\n",
  "    [int]$Directive = $Out[-1].TrimStart(':')\n",
  "    if ($Directive -eq \"\") \x7b\n",
  "        # There is no directive specified\n",
  "        $Directive = 0\n",
  "    \x7d\n",
  "    __" ++ name ++ "_debug \"The completion directive is: $Directive\"\n",
  "\n",
  "    # remove directive (last element) from out\n",
  "    $Out = $Out | Where-Object \x7b $_ -ne $Out[-1] \x7d\n",
  "    __" ++ name ++ "_debug \"The completions are: $Out\"\n",
  "\n",
  "    if (($Directive -band $ShellCompDirectiveError) -ne 0 ) \x7b\n",
  "        # Error code.  No completion.\n",
  "        __" ++ name ++ "_debug \"Received error from custom completion go code\"\n",
  "        return\n",
  "    \x7d\n",
  "\n",
  "    $Longest = 0\n",
  "    [Array]$Values = $Out | ForEach-Object \x7b\n",
  "        #Split the output in name and description\n",
  "        $Name, $Description = $_.Split(\"`t\",2)\n",
  "        __" ++ name ++ "_debug \"Name: $Name Description: $Description\"\n",
  "\n",
  "        # Look for the longest completion so that we can format things nicely\n",
  "        if ($Longest -lt $Name.Length) \x7b\n",
  "            $Longest = $Name.Length\n",
  "        \x7d\n",
  "\n",
  "        # Set the description to a one space string if there is none set.\n",
  "        # This is needed because the CompletionResult does not accept an empty string as argument\n",
  "        if (-Not $Description) \x7b\n",
  "            $Description = \" \"\n",
  "        \x7d\n",
  "        New-Object -TypeName PSCustomObject -Property @\x7b\n",
  "            Name = \"$Name\"\n",
  "            Description = \"$Description\"\n",
  "        \x7d\n",
  "    \x7d\n",
  "\n",
  "\n",
  "    $Space = \" \"\n",
  "    if (($Directive -band $ShellCompDirectiveNoSpace) -ne 0 ) \x7b\n",
  "        # remove the space here\n",
  "        __" ++ name ++ "_debug \"ShellCompDirectiveNoSpace is called\"\n",
  "        $Space = \"\"\n",
  "    \x7d\n",
  "\n",
  "    if ((($Directive -band $ShellCompDirectiveFilterFileExt) -ne 0 ) -or\n",
  "       (($Directive -band $ShellCompDirectiveFilterDirs) -ne 0 ))  \x7b\n",
  "        __" ++ name ++ "_debug \"ShellCompDirectiveFilterFileExt ShellCompDirectiveFilterDirs are not supported\"\n",
  "\n",
  "        # return here to prevent the completion of the extensions\n",
  "        return\n",
  "    \x7d\n",
  "\n",
  "    $Values = $Values | Where-Object \x7b\n",
  "        # filter the result\n",
  "        $_.Name -like \"$WordToComplete*\"\n",
  "\n",
  "        # Join the flag back if we have an equal sign flag\n",
  "        if ( $IsEqualFlag ) \x7b\n",
  "            __" ++ name ++ "_debug \"Join the equal sign flag back to the completion value\"\n",
  "            $_.Name = $Flag + \"=\" + $_.Name\n",
  "        \x7d\n",
  "    \x7d\n",
  "\n",
  "    # we sort the values in ascending order by name if keep order isn't passed\n",
  "    if (($Directive -band $ShellCompDirectiveKeepOrder) -eq 0 ) \x7b\n",
  "        $Values = $Values | Sort-Object -Property Name\n",
  "    \x7d\n",
  "\n",
  "    if (($Directive -band $ShellCompDirectiveNoFileComp) -ne 0 ) \x7b\n",
  "        __" ++ name ++ "_debug \"ShellCompDirectiveNoFileComp is called\"\n",
  "\n",
  "        if ($Values.Length -eq 0) \x7b\n",
  "            # Just print an empty string here so the\n",
  "            # shell does not start to complete paths.\n",
  "            # We cannot use CompletionResult here because\n",
  "            # it does not accept an empty string as argument.\n",
  "            \"\"\n",
  "            return\n",
  "        \x7d\n",
  "    \x7d\n",
  "\n",
  "    # Get the current mode\n",
  "    $Mode = (Get-PSReadLineKeyHandler | Where-Object \x7b$_.Key -eq \"Tab\" \x7d).Function\n",
  "    __" ++ name ++ "_debug \"Mode: $Mode\"\n",
  "\n",
  "    $Values | ForEach-Object \x7b\n",
  "\n",
  "        # store temporary because switch will overwrite $_\n",
  "        $comp = $_\n",
  "\n",
  "        # PowerShell supports three different completion modes\n",
  "        # - TabCompleteNext (default windows style - on each key press the next option is displayed)\n",
  "        # - Complete (works like bash)\n",
  "        # - MenuComplete (works like zsh)\n",
  "        # You set the mode with Set-PSReadLineKeyHandler -Key Tab -Function <mode>\n",
  "\n",
  "        # CompletionResult Arguments:\n",
  "        # 1) CompletionText text to be used as the auto completion result\n",
  "        # 2) ListItemText   text to be displayed in the suggestion list\n",
  "        # 3) ResultType     type of completion result\n",
  "        # 4) ToolTip        text for the tooltip with details about the object\n",
  "\n",
  "        switch ($Mode) \x7b\n",
  "\n",
  "            # bash like\n",
  "            \"Complete\" \x7b\n",
  "\n",
  "                if ($Values.Length -eq 1) \x7b\n",
  "                    __" ++ name ++ "_debug \"Only one completion left\"\n",
  "\n",
  "                    # insert space after value\n",
  "                    $CompletionText = $($comp.Name | __" ++ name ++ "_escapeStringWithSpecialChars) + $Space\n",
  "                    if ($ExecutionContext.SessionState.LanguageMode -eq \"FullLanguage\")\x7b\n",
  "                        [System.Management.Automation.CompletionResult]::new($CompletionText, \"$($comp.Name)\", 'ParameterValue', \"$($comp.Description)\")\n",
  "                    \x7d else \x7b\n",
  "                        $CompletionText\n",
  "                    \x7d\n",
  "\n",
  "                \x7d else \x7b\n",
  "                    # Add the proper number of spaces to align the descriptions\n",
  "                    while($comp.Name.Length -lt $Longest) \x7b\n",
  "                        $comp.Name = $comp.Name + \" \"\n",
  "                    \x7d\n",
  "\n",
  "                    # Check for empty description and only add parentheses if needed\n",
  "                    if ($($comp.Description) -eq \" \" ) \x7b\n",
  "                        $Description = \"\"\n",
  "                    \x7d else \x7b\n",
  "                        $Description = \"  ($($comp.Description))\"\n",
  "                    \x7d\n",
  "\n",
  "                    $CompletionText = \"$($comp.Name)$Description\"\n",
  "                    if ($ExecutionContext.SessionState.LanguageMode -eq \"FullLanguage\")\x7b\n",
  "                        [System.Management.Automation.CompletionResult]::new($CompletionText, \"$($comp.Name)$Description\", 'ParameterValue', \"$($comp.Description)\")\n",
  "                    \x7d else \x7b\n",
  "                        $CompletionText\n",
  "                    \x7d\n",
  "                \x7d\n",
  "             \x7d\n",
  "\n",
  "            # zsh like\n",
  "            \"MenuComplete\" \x7b\n",
  "                # insert space after value\n",
  "                # MenuComplete will automatically show the ToolTip of\n",
  "                # the highlighted value at the bottom of the suggestions.\n",
  "\n",
  "                $CompletionText = $($comp.Name | __" ++ name ++ "_escapeStringWithSpecialChars) + $Space\n",
  "                if ($ExecutionContext.SessionState.LanguageMode -eq \"FullLanguage\")\x7b\n",
  "                    [System.Management.Automation.CompletionResult]::new($CompletionText, \"$($comp.Name)\", 'ParameterValue', \"$($comp.Description)\")\n",
  "                \x7d else \x7b\n",
  "                    $CompletionText\n",
  "                \x7d\n",
  "            \x7d\n",
  "\n",
  "            # TabCompleteNext and in case we get something unknown\n",
  "            Default \x7b\n",
  "                # Like MenuComplete but we don't want to add a space here because\n",
  "                # the user need to press space anyway to get the completion.\n",
  "                # Description will not be shown because that's not possible with TabCompleteNext\n",
  "\n",
  "                $CompletionText = $($comp.Name | __" ++ name ++ "_escapeStringWithSpecialChars)\n",
  "                if ($ExecutionContext.SessionState.LanguageMode -eq \"FullLanguage\")\x7b\n",
  "                    [System.Management.Automation.CompletionResult]::new($CompletionText, \"$($comp.Name)\", 'ParameterValue', \"$($comp.Description)\")\n",
  "                \x7d else \x7b\n",
  "                    $CompletionText\n",
  "                \x7d\n",
  "            \x7d\n",
  "        \x7d\n",
  "\n",
  "    \x7d\n",
  "\x7d\n",
  "\n",
  "Register-ArgumentCompleter -CommandName '" ++ name ++ "' -ScriptBlock $\x7b__" ++ name ++ "CompleterBlock\x7d\n"]

end Shell

end Cli

end ParityGames
